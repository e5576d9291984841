import BridgeWatch.Proofs.Observer.CatchUp
import BridgeWatch.Proofs.Observer.Delivery

/-!
# What becomes of the entries of a window

The loop over the entries of a window, told without the machine that runs it.

* `Fate` is what becomes of one entry, and `Observer.Meets` which fates an entry can meet. A fate
  that comes from the ledger holds the submission and its answer.
* `Observer.fates` deals with the entries one by one against the remote ends, up to the one that
  stops the tick, and `Observer.outcome` tells from their fates how the tick ends. Together they are
  the loop (`complete_relayEntries`).
* `Observer.Deals`: under the skip policy every entry meets its fate, under the hold policy every
  entry up to the first that fails.
* Entries outside the schema do not matter (`fates_filter`, `outcome_filter`).
-/

namespace BridgeWatch

/-- What becomes of an entry. -/
inductive Fate
  /-- Its topic is not in the schema. -/
  | ignored
  /-- It cannot be decoded. -/
  | undecoded (cause : Fault)
  /-- The ledger has answered its submission. -/
  | answered (submission : Submission) (answer : Except Fault CorrelationId)

namespace Fate

/-- The entry was outside the schema. -/
def isIgnored : Fate → Bool
  | ignored => true
  | undecoded _ | answered _ _ => false

/-- The ledger has accepted the entry's event. -/
def isForwarded : Fate → Bool
  | answered _ (.ok _) => true
  | ignored | undecoded _ | answered _ (.error _) => false

/-- Why the entry has failed. -/
def failure? : Fate → Option Fault
  | undecoded cause => some cause
  | answered _ (.error f) => some f.asSubmission
  | ignored | answered _ (.ok _) => none

/-- What was said to the ledger about the entry, and the answer. -/
def exchange? : Fate → Option (Submission × Except Fault CorrelationId)
  | answered s answer => some (s, answer)
  | ignored | undecoded _ => none

end Fate

/-- Some submissions, one after the other, with the answers of the remote ends. -/
inductive Remote.Answers {σ : Type} (remote : Remote σ) :
    σ → List (Submission × Except Fault CorrelationId) → σ → Prop
  | nil (r : σ) : Answers remote r [] r
  | cons {r r' : σ} {s : Submission} {exchanges : List (Submission × Except Fault CorrelationId)}
    (rest : Answers remote (remote.answer (.submit s) r).2 exchanges r') :
    Answers remote r ((s, (remote.answer (.submit s) r).1) :: exchanges) r'

/-- The tally after one more entry. -/
def Tally.count (t : Tally) : Fate → Tally
  | .ignored => { t with ignored := t.ignored + 1 }
  | .answered _ (.ok _) => { t with forwarded := t.forwarded + 1 }
  | .undecoded _ | .answered _ (.error _) => { t with skipped := t.skipped + 1 }

/-- Each entry is counted once. -/
theorem Fate.countP_add (fates : List Fate) : fates.countP (·.isForwarded) +
    fates.countP (·.isIgnored) + fates.countP (·.failure?.isSome) = fates.length := by
  induction fates with
  | nil => rfl
  | cons fate fates ih =>
    have once : (if fate.isForwarded then 1 else 0) + (if fate.isIgnored then 1 else 0) +
        (if fate.failure?.isSome then 1 else 0) = 1 := by
      rcases fate with _ | cause | ⟨s, f | id⟩ <;> rfl
    simp only [List.countP_cons, List.length_cons]
    omega

theorem Tally.foldl_count (t : Tally) (fates : List Fate) : fates.foldl Tally.count t =
    ⟨t.forwarded + fates.countP (·.isForwarded), t.ignored + fates.countP (·.isIgnored),
      t.skipped + fates.countP (·.failure?.isSome)⟩ := by
  induction fates generalizing t with
  | nil => rfl
  | cons fate fates ih =>
    rw [List.foldl_cons, ih]
    rcases fate with _ | cause | ⟨s, f | id⟩ <;>
      simp [count, Fate.isForwarded, Fate.isIgnored, Fate.failure?] <;> omega

/-- The outcome without the number of entries that were ignored. -/
def TickOutcome.withoutIgnored : TickOutcome → TickOutcome
  | applied w t => applied w { t with ignored := 0 }
  | o => o

namespace Observer

/-- The fates that an entry can meet. -/
inductive Meets (o : Observer) (e : LogEntry) : Fate → Prop
  | ignored (unknown : ¬o.Knows e) : Meets o e .ignored
  | undecoded {cause : Fault} (known : o.Knows e)
    (fails : decodeEntry o.chain o.schema e = .error cause) : Meets o e (.undecoded cause)
  | transferred {event : Event} {order : TransferOrder}
    (decodes : decodeEntry o.chain o.schema e = .ok event)
    (kind : event.kind = .deposit ∨ event.kind = .burn) (payload : event.order = .ok order)
    (answer : Except Fault CorrelationId) : Meets o e (.answered (.transfer order) answer)
  | noticed {event : Event} {notice : ReceiptNotice}
    (decodes : decodeEntry o.chain o.schema e = .ok event)
    (kind : event.kind = .release ∨ event.kind = .mintConfirmation)
    (payload : event.notice = .ok notice)
    (answer : Except Fault CorrelationId) : Meets o e (.answered (.receipt notice) answer)

/-- How the entries of a window are dealt with. -/
inductive Deals (o : Observer) (w : Window) (entries : List LogEntry) :
    List Fate → TickOutcome → Prop
  /-- All entries meet their fates, under the hold policy without a failure. -/
  | applied {fates : List Fate} (met : List.Forall₂ o.Meets entries fates)
    (clean : o.policy = .hold → ∀ fate ∈ fates, fate.failure? = none) :
    Deals o w entries fates (.applied w ⟨fates.countP (·.isForwarded),
      fates.countP (·.isIgnored), fates.countP (·.failure?.isSome)⟩)
  /-- The first entry that fails is the last one to be dealt with. -/
  | held {before after : List LogEntry} {e : LogEntry} {fates : List Fate} {fate : Fate}
    {cause : Fault} (policy : o.policy = .hold) (split : entries = before ++ e :: after)
    (met : List.Forall₂ o.Meets before fates) (clean : ∀ fate ∈ fates, fate.failure? = none)
    (last : o.Meets e fate) (fails : fate.failure? = some cause) :
    Deals o w entries (fates ++ [fate]) (.held w (fates.countP (·.isForwarded)) cause.message)

/-! ## The loop, entry by entry -/

section Loop

variable {σ : Type} (o : Observer) (remote : Remote σ)

/-- What becomes of an entry, and of the remote ends. -/
def fate (e : LogEntry) (r : σ) : Fate × σ :=
  match o.classify e with
  | .ignored => (.ignored, r)
  | .failed cause => (.undecoded cause, r)
  | .submitted _ s =>
    (.answered s (remote.answer (.submit s) r).1, (remote.answer (.submit s) r).2)

/-- An entry with this fate is the last one to be dealt with. -/
def stops (fate : Fate) : Bool :=
  match o.policy with
  | .hold => fate.failure?.isSome
  | .skip => false

/-- What becomes of the entries of a window, and of the remote ends. -/
def fates : List LogEntry → σ → List Fate × σ
  | [], r => ([], r)
  | e :: rest, r =>
    let (fate, r) := o.fate remote e r
    if o.stops fate then ([fate], r)
    else
      let (fates, r) := fates rest r
      (fate :: fates, r)

/-- How a tick ends by the fates of the entries of its window. -/
def outcome (w : Window) : Tally → List Fate → TickOutcome
  | t, [] => .applied w t
  | t, fate :: rest =>
    match o.policy, fate.failure? with
    | .hold, some cause => .held w t.forwarded cause.message
    | _, _ => outcome w (t.count fate) rest

variable {o remote}

/-- An entry stops the tick if it fails under the hold policy. -/
theorem stops_eq_true_iff {fate : Fate} :
    o.stops fate = true ↔ o.policy = .hold ∧ ∃ cause, fate.failure? = some cause := by
  unfold stops
  cases o.policy with
  | hold => simp [Option.isSome_iff_exists]
  | skip => simp

theorem stops_of_failure?_eq_none {fate : Fate} (h : fate.failure? = none) :
    o.stops fate = false := by
  unfold stops
  cases o.policy with
  | hold => simp [h]
  | skip => rfl

theorem failure?_eq_none_of_not_stops (ho : o.policy = .hold) {fate : Fate}
    (h : o.stops fate = false) : fate.failure? = none := by
  simpa [stops, ho] using h

theorem stops_of_skip (ho : o.policy = .skip) (fate : Fate) : o.stops fate = false := by
  simp only [stops, ho]

theorem fates_cons_of_stops {e : LogEntry} {r : σ} (h : o.stops (o.fate remote e r).1 = true)
    (rest : List LogEntry) :
    o.fates remote (e :: rest) r = ([(o.fate remote e r).1], (o.fate remote e r).2) :=
  if_pos h

theorem fates_cons_of_not_stops {e : LogEntry} {r : σ}
    (h : o.stops (o.fate remote e r).1 = false) (rest : List LogEntry) :
    o.fates remote (e :: rest) r =
      ((o.fate remote e r).1 :: (o.fates remote rest (o.fate remote e r).2).1,
        (o.fates remote rest (o.fate remote e r).2).2) := by
  simp only [fates, h]
  rfl

theorem outcome_cons_of_stops {w : Window} {t : Tally} {fate : Fate} {cause : Fault}
    (ho : o.policy = .hold) (h : fate.failure? = some cause) (rest : List Fate) :
    o.outcome w t (fate :: rest) = .held w t.forwarded cause.message := by
  simp only [outcome, ho, h]

theorem outcome_cons_of_not_stops {fate : Fate} (h : o.stops fate = false) (w : Window)
    (t : Tally) (rest : List Fate) :
    o.outcome w t (fate :: rest) = o.outcome w (t.count fate) rest := by
  rw [outcome]
  split
  · rename_i cause ho hf
    rw [stops_eq_true_iff.2 ⟨ho, cause, hf⟩] at h
    cases h
  · rfl

variable (o remote) in
/-- An entry that is submitted is dealt with by the answer. -/
theorem complete_afterSubmission (w : Window) (t : Tally) (event : Event) (s : Submission)
    (rest : List LogEntry) (answer : Except Fault CorrelationId) (v : View) (r : σ) :
    (∃ cause v', o.policy = .hold ∧ (Fate.answered s answer).failure? = some cause ∧
        o.complete remote (o.afterSubmission w t event rest answer v) r =
          (.ok (.held w t.forwarded cause.message), v', r)) ∨
      o.stops (.answered s answer) = false ∧
        ∃ u, u.watermark? o.chain = v.watermark? o.chain ∧
          o.afterSubmission w t event rest answer v =
            o.relayEntries w (t.count (.answered s answer)) rest u := by
  cases answer with
  | ok id =>
    exact .inr ⟨stops_of_failure?_eq_none rfl, ⟨v.progress, v.shared.recordRelayed event⟩, rfl,
      rfl⟩
  | error f =>
    rw [afterSubmission_error]
    cases ho : o.policy with
    | hold =>
      obtain ⟨u, hu, -⟩ := o.complete_finishTick remote
        (.ok (.held w t.forwarded f.asSubmission.message)) (o.countSkipped f.asSubmission v) r
      exact .inl ⟨f.asSubmission, u, rfl, rfl, hu⟩
    | skip => exact .inr ⟨stops_of_skip ho _, o.countSkipped f.asSubmission v, rfl, rfl⟩

variable (o remote) in
/-- **One turn of the loop.** An entry either stops the tick or is counted. -/
theorem complete_relayEntries_cons (w : Window) (t : Tally) (e : LogEntry) (rest : List LogEntry)
    (v : View) (r : σ) :
    (∃ cause v', o.policy = .hold ∧ (o.fate remote e r).1.failure? = some cause ∧
        o.complete remote (o.relayEntries w t (e :: rest) v) r =
          (.ok (.held w t.forwarded cause.message), v', (o.fate remote e r).2)) ∨
      o.stops (o.fate remote e r).1 = false ∧
        ∃ u, u.watermark? o.chain = v.watermark? o.chain ∧
          o.complete remote (o.relayEntries w t (e :: rest) v) r =
            o.complete remote (o.relayEntries w (t.count (o.fate remote e r).1) rest u)
              (o.fate remote e r).2 := by
  rw [relayEntries]
  cases hc : o.classify e with
  | ignored =>
    have hf : o.fate remote e r = (.ignored, r) := by simp only [fate, hc]
    rw [hf]
    exact .inr ⟨stops_of_failure?_eq_none rfl, v, rfl, rfl⟩
  | failed cause =>
    have hf : o.fate remote e r = (.undecoded cause, r) := by simp only [fate, hc]
    rw [hf]
    cases ho : o.policy with
    | hold =>
      obtain ⟨u, hu, -⟩ := o.complete_finishTick remote (.ok (.held w t.forwarded cause.message))
        (o.countSkipped cause v) r
      exact .inl ⟨cause, u, rfl, rfl, hu⟩
    | skip => exact .inr ⟨stops_of_skip ho _, o.countSkipped cause v, rfl, rfl⟩
  | submitted event s =>
    have hf : o.fate remote e r =
        (.answered s (remote.answer (.submit s) r).1, (remote.answer (.submit s) r).2) := by
      simp only [fate, hc]
    rw [hf, complete_waiting]
    rcases complete_afterSubmission o remote w t event s rest (remote.answer (.submit s) r).1 v
      (remote.answer (.submit s) r).2 with h | ⟨hs, u, hu, heq⟩
    · exact .inl h
    · exact .inr ⟨hs, u, hu, congrArg (o.complete remote · _) heq⟩

/-- **The loop over the entries is its reference.** -/
theorem complete_relayEntries {w : Window} {v : View} {entries : List LogEntry} {t : Tally} {r : σ}
    (hw : ∃ m, v.watermark? o.chain = some m ∧ w.Follows m) :
    ∃ v', o.complete remote (o.relayEntries w t entries v) r =
      (.ok (o.outcome w t (o.fates remote entries r).1), v', (o.fates remote entries r).2) := by
  -- By induction on the entries, from any tally. No turn moves the watermark, so the window still
  -- follows it when all entries are dealt with, and is applied.
  induction entries generalizing t v r with
  | nil =>
    obtain ⟨u, hu⟩ := applyWindow_eq t hw
    rw [relayEntries, hu, complete]
    exact ⟨u, rfl⟩
  | cons e rest ih =>
    rcases complete_relayEntries_cons o remote w t e rest v r with
        ⟨cause, v', ho, hf, heq⟩ | ⟨hs, u, hu, heq⟩
    · rw [fates_cons_of_stops (stops_eq_true_iff.2 ⟨ho, cause, hf⟩),
        outcome_cons_of_stops ho hf]
      exact ⟨v', heq⟩
    · rw [heq, fates_cons_of_not_stops hs, outcome_cons_of_not_stops hs]
      exact ih (hu ▸ hw)

/-! ## What the fates are -/

/-- An entry outside the schema does not decode. -/
theorem decodeEntry_of_not_knows {e : LogEntry} (h : ¬o.Knows e) :
    ∃ topic, decodeEntry o.chain o.schema e = .error (.unknownSignature topic) := by
  unfold decodeEntry
  split
  · exact ⟨_, rfl⟩
  · rename_i topic ht
    split
    · exact ⟨_, rfl⟩
    · rename_i sig hs
      exact absurd ⟨topic, sig, ht, hs⟩ h

theorem classify_of_not_knows {e : LogEntry} (h : ¬o.Knows e) : o.classify e = .ignored := by
  obtain ⟨topic, hd⟩ := decodeEntry_of_not_knows h
  rw [classify, hd]

theorem knows_of_decode {e : LogEntry} {event : Event}
    (h : decodeEntry o.chain o.schema e = .ok event) : o.Knows e := by
  by_contra unknown
  obtain ⟨topic, hd⟩ := decodeEntry_of_not_knows unknown
  rw [hd] at h
  cases h

variable (o remote) in
theorem meets_fate (e : LogEntry) (r : σ) : o.Meets e (o.fate remote e r).1 := by
  unfold fate
  split
  · rename_i hc
    exact .ignored fun known => known.classify_ne_ignored hc
  · rename_i cause hc
    refine .undecoded ?_ (decode_of_failed hc)
    by_contra unknown
    rw [classify_of_not_knows unknown] at hc
    cases hc
  · rename_i event s hc
    obtain ⟨hd, hs⟩ := decode_of_submitted hc
    cases event <;> cases hs
    · exact .transferred hd (.inl rfl) rfl _
    · exact .transferred hd (.inr rfl) rfl _
    · exact .noticed hd (.inl rfl) rfl _
    · exact .noticed hd (.inr rfl) rfl _

theorem answers_fate (e : LogEntry) {r r' : σ} {fates : List Fate}
    (h : remote.Answers (o.fate remote e r).2 (fates.filterMap Fate.exchange?) r') :
    remote.Answers r (((o.fate remote e r).1 :: fates).filterMap Fate.exchange?) r' := by
  unfold fate at h ⊢
  split at h
  · exact h
  · exact h
  · exact .cons h

/-- The remote ends are asked for the submissions in the fates, and for nothing else. -/
theorem answers_fates (entries : List LogEntry) (r : σ) :
    remote.Answers r ((o.fates remote entries r).1.filterMap Fate.exchange?)
      (o.fates remote entries r).2 := by
  induction entries generalizing r with
  | nil => exact .nil r
  | cons e rest ih =>
    cases hs : o.stops (o.fate remote e r).1 with
    | true =>
      rw [fates_cons_of_stops hs]
      exact answers_fate e (.nil _)
    | false =>
      rw [fates_cons_of_not_stops hs]
      exact answers_fate e (ih _)

variable (o remote) in
/-- Either no entry stops the tick, or the last one that is dealt with does. -/
theorem fates_cases (entries : List LogEntry) (r : σ) :
    (List.Forall₂ o.Meets entries (o.fates remote entries r).1 ∧
        ∀ fate ∈ (o.fates remote entries r).1, o.stops fate = false) ∨
      ∃ before e after fates fate, entries = before ++ e :: after ∧
        (o.fates remote entries r).1 = fates ++ [fate] ∧ List.Forall₂ o.Meets before fates ∧
          (∀ fate ∈ fates, o.stops fate = false) ∧ o.Meets e fate ∧ o.stops fate = true := by
  induction entries generalizing r with
  | nil => exact .inl ⟨.nil, by simp [fates]⟩
  | cons e rest ih =>
    have met := meets_fate o remote e r
    cases hs : o.stops (o.fate remote e r).1 with
    | true =>
      rw [fates_cons_of_stops hs]
      exact .inr ⟨[], e, rest, [], _, rfl, rfl, .nil, by simp, met, hs⟩
    | false =>
      rw [fates_cons_of_not_stops hs]
      rcases ih (o.fate remote e r).2 with ⟨hmet, hall⟩ |
          ⟨before, e', after, fates, fate', rfl, heq, hmet, hall, hlast, hstops⟩
      · exact .inl ⟨.cons met hmet, List.forall_mem_cons.2 ⟨hs, hall⟩⟩
      · refine .inr ⟨e :: before, e', after, _ :: fates, fate', rfl, ?_, .cons met hmet,
          List.forall_mem_cons.2 ⟨hs, hall⟩, hlast, hstops⟩
        rw [heq]
        rfl

theorem outcome_of_not_stops {fates : List Fate} (h : ∀ fate ∈ fates, o.stops fate = false)
    (w : Window) (t : Tally) : o.outcome w t fates = .applied w (fates.foldl Tally.count t) := by
  induction fates generalizing t with
  | nil => rfl
  | cons fate rest ih =>
    obtain ⟨hs, hrest⟩ := List.forall_mem_cons.1 h
    rw [outcome_cons_of_not_stops hs, ih hrest, List.foldl_cons]

theorem outcome_of_stops {fates : List Fate} (h : ∀ fate ∈ fates, o.stops fate = false)
    (ho : o.policy = .hold) {fate : Fate} {cause : Fault} (hf : fate.failure? = some cause)
    (w : Window) (t : Tally) : o.outcome w t (fates ++ [fate]) =
      .held w (fates.foldl Tally.count t).forwarded cause.message := by
  induction fates generalizing t with
  | nil => exact outcome_cons_of_stops ho hf []
  | cons fate' rest ih =>
    obtain ⟨hs, hrest⟩ := List.forall_mem_cons.1 h
    rw [List.cons_append, outcome_cons_of_not_stops hs, ih hrest, List.foldl_cons]

variable (o remote) in
/-- **The reference deals with all entries**, or under the hold policy with those up to the first
that fails. -/
theorem deals_fates (w : Window) (entries : List LogEntry) (r : σ) :
    o.Deals w entries (o.fates remote entries r).1
      (o.outcome w .zero (o.fates remote entries r).1) := by
  have clean : ∀ fates : List Fate, (∀ fate ∈ fates, o.stops fate = false) →
      o.policy = .hold → ∀ fate ∈ fates, fate.failure? = none :=
    fun fates h ho fate hmem => failure?_eq_none_of_not_stops ho (h fate hmem)
  rcases fates_cases o remote entries r with ⟨met, hall⟩ |
      ⟨before, e, after, fates, fate, split, heq, met, hall, last, hstops⟩
  · rw [outcome_of_not_stops hall, Tally.foldl_count]
    simp only [Tally.zero, Nat.zero_add]
    exact .applied met (clean _ hall)
  · obtain ⟨ho, cause, hcause⟩ := stops_eq_true_iff.1 hstops
    rw [heq, outcome_of_stops hall ho hcause, Tally.foldl_count]
    simp only [Tally.zero, Nat.zero_add]
    exact .held ho split met (clean _ hall ho) last hcause

/-! ## What the ledger is asked for -/

theorem submission_of_transferred {event : Event}
    (kind : event.kind = .deposit ∨ event.kind = .burn) :
    RelayCall.forward.submission event = event.order.map .transfer := by
  rcases kind with h | h <;> simp [RelayCall.submission, EventKind.isTransfer, h]

theorem submission_of_noticed {event : Event}
    (kind : event.kind = .release ∨ event.kind = .mintConfirmation) :
    RelayCall.forward.submission event = event.notice.map .receipt := by
  rcases kind with h | h <;> simp [RelayCall.submission, EventKind.isTransfer, h]

/-- An entry that meets its fate is submitted if it decodes. -/
theorem Meets.submission?_eq {e : LogEntry} {fate : Fate} (h : o.Meets e fate) :
    fate.exchange?.map Prod.fst = o.submission? e := by
  cases h with
  | ignored unknown => rw [submission?_of_ignored (classify_of_not_knows unknown)]; rfl
  | undecoded known fails => rw [submission?, fails]; rfl
  | transferred decodes kind payload answer =>
    simp only [submission?, decodes, submission_of_transferred kind, payload]
    rfl
  | noticed decodes kind payload answer =>
    simp only [submission?, decodes, submission_of_noticed kind, payload]
    rfl

theorem submissions_of_forall₂ {entries : List LogEntry} {fates : List Fate}
    (h : List.Forall₂ o.Meets entries fates) :
    (fates.filterMap Fate.exchange?).map Prod.fst = entries.filterMap o.submission? := by
  rw [List.map_filterMap]
  induction h with
  | nil => rfl
  | cons met rest ih => rw [List.filterMap_cons, List.filterMap_cons, met.submission?_eq, ih]

/-- Under the skip policy every window is applied, every entry is counted, and what decodes is
submitted. -/
theorem Deals.applied_of_skip {w : Window} {entries : List LogEntry} {fates : List Fate}
    {outcome : TickOutcome} (h : o.Deals w entries fates outcome) (ho : o.policy = .skip) :
    ∃ tally, outcome = .applied w tally ∧
      tally.forwarded + tally.ignored + tally.skipped = entries.length ∧
      (fates.filterMap Fate.exchange?).map Prod.fst = entries.filterMap o.submission? := by
  cases h with
  | applied met clean =>
    refine ⟨_, rfl, ?_, submissions_of_forall₂ met⟩
    rw [met.length_eq]
    exact Fate.countP_add fates
  | held policy =>
    rw [ho] at policy
    cases policy

/-- Under the hold policy no entry of a window that is applied is skipped. -/
theorem Deals.skipped_of_hold {w : Window} {entries : List LogEntry} {fates : List Fate}
    {tally : Tally} (h : o.Deals w entries fates (.applied w tally)) (ho : o.policy = .hold) :
    tally.skipped = 0 := by
  cases h with
  | applied met clean =>
    refine List.countP_eq_zero.2 ?_
    intro fate hmem
    rw [clean ho fate hmem]
    simp

/-! ## Entries outside the schema -/

instance (o : Observer) (e : LogEntry) : Decidable (o.Knows e) :=
  decidable_of_iff ((e.topic.bind o.schema.lookup).isSome = true) (by
    simp only [Option.isSome_iff_exists, Option.bind_eq_some_iff, Knows]
    exact ⟨fun ⟨sig, topic, h⟩ => ⟨topic, sig, h⟩, fun ⟨topic, sig, h⟩ => ⟨sig, topic, h⟩⟩)

theorem Meets.isIgnored_eq {e : LogEntry} {fate : Fate} (h : o.Meets e fate) :
    fate.isIgnored = !decide (o.Knows e) := by
  cases h with
  | ignored unknown => simp [unknown, Fate.isIgnored]
  | undecoded known fails => simp [known, Fate.isIgnored]
  | transferred decodes => simp [knows_of_decode decodes, Fate.isIgnored]
  | noticed decodes => simp [knows_of_decode decodes, Fate.isIgnored]

theorem fate_of_not_knows {e : LogEntry} (h : ¬o.Knows e) (r : σ) :
    o.fate remote e r = (.ignored, r) := by
  simp only [fate, classify_of_not_knows h]

variable (o remote) in
/-- Entries outside the schema leave no trace but their own fates. -/
theorem fates_filter (entries : List LogEntry) (r : σ) :
    o.fates remote (entries.filter (o.Knows ·)) r =
      ((o.fates remote entries r).1.filter (!·.isIgnored), (o.fates remote entries r).2) := by
  induction entries generalizing r with
  | nil => rfl
  | cons e rest ih =>
    by_cases known : o.Knows e
    · have hkept : (o.fate remote e r).1.isIgnored = false := by
        simp [(meets_fate o remote e r).isIgnored_eq, known]
      rw [List.filter_cons_of_pos (by simpa using known)]
      cases hs : o.stops (o.fate remote e r).1 with
      | true => simp [fates_cons_of_stops hs, hkept]
      | false => simp [fates_cons_of_not_stops hs, hkept, ih]
    · have hf : o.fate remote e r = (.ignored, r) := fate_of_not_knows known r
      rw [List.filter_cons_of_neg (by simpa using known), ih,
        fates_cons_of_not_stops (by rw [hf]; exact stops_of_failure?_eq_none rfl), hf]
      rfl

theorem outcome_filter (w : Window) (t : Tally) (fates : List Fate) :
    (o.outcome w t fates).withoutIgnored =
      o.outcome w { t with ignored := 0 } (fates.filter (!·.isIgnored)) := by
  induction fates generalizing t with
  | nil => rfl
  | cons fate rest ih =>
    cases hi : fate.isIgnored with
    | true =>
      -- It is counted among the ignored ones, which the outcome is not asked about.
      obtain rfl : fate = .ignored := by
        cases fate <;> first | rfl | cases hi
      rw [List.filter_cons_of_neg (by simp [hi]),
        outcome_cons_of_not_stops (stops_of_failure?_eq_none rfl), ih]
      rfl
    | false =>
      rw [List.filter_cons_of_pos (by simp [hi])]
      cases hs : o.stops fate with
      | true =>
        obtain ⟨ho, cause, hf⟩ := stops_eq_true_iff.1 hs
        rw [outcome_cons_of_stops ho hf, outcome_cons_of_stops ho hf]
        rfl
      | false =>
        rw [outcome_cons_of_not_stops hs, outcome_cons_of_not_stops hs, ih]
        congr 1
        rcases fate with _ | cause | ⟨s, f | id⟩
        · cases hi
        all_goals rfl

end Loop

/-! ## Fetched entries -/

/-- **A tick that has fetched entries deals with each in turn**, whatever the ledger answers. Under
the skip policy it applies its window and submits what the entries decode to, in their order; under
the hold policy it stops at the first entry that fails. Other entries outside the schema, or none of
them, change nothing but how many were ignored. -/
theorem complete_fetched {o : Observer} {v u : View} {w : Window} {ds : List TickEvent}
    (reached : o.Trace (o.startTick v) ds (.waiting (.fetch w) u)) (quiet : Undisturbed ds)
    {σ : Type} (remote : Remote σ) (r : σ) (entries : List LogEntry) :
    ∃ fates outcome v' r',
      o.complete remote (o.resumeTick u (.fetch w) (.ok entries)) r = (.ok outcome, v', r') ∧
      remote.Answers r (fates.filterMap Fate.exchange?) r' ∧
      o.Deals w entries fates outcome ∧
      (o.policy = .skip → ∃ tally, outcome = .applied w tally ∧
        tally.forwarded + tally.ignored + tally.skipped = entries.length ∧
        (fates.filterMap Fate.exchange?).map Prod.fst = entries.filterMap o.submission?) ∧
      (o.policy = .hold → ∀ tally, outcome = .applied w tally → tally.skipped = 0) ∧
      ∀ others : List LogEntry, others.filter (o.Knows ·) = entries.filter (o.Knows ·) →
        ∃ outcome' v'',
          o.complete remote (o.resumeTick u (.fetch w) (.ok others)) r = (.ok outcome', v'', r') ∧
            outcome'.withoutIgnored = outcome.withoutIgnored := by
  obtain ⟨hmark, hfits⟩ := reached.fits quiet (o.fits_startTick v)
  have hw : ∃ m, u.watermark? o.chain = some m ∧ w.Follows m := by
    rw [hmark]
    exact hfits
  have run : ∀ others, ∃ v', o.complete remote (o.resumeTick u (.fetch w) (.ok others)) r = _ :=
    fun others => complete_relayEntries (v := u.setState .applying) hw
  obtain ⟨v', hrun⟩ := run entries
  have deals := deals_fates o remote w entries r
  refine ⟨_, _, v', _, hrun, answers_fates entries r, deals, ?_, ?_, ?_⟩
  · exact deals.applied_of_skip
  · intro ho tally heq
    rw [heq] at deals
    exact deals.skipped_of_hold ho
  · intro others same
    obtain ⟨v'', hothers⟩ := run others
    have hfilter := fates_filter o remote others r
    rw [same, fates_filter o remote entries r, Prod.mk.injEq] at hfilter
    obtain ⟨hfates, hr⟩ := hfilter
    rw [← hr] at hothers
    refine ⟨_, v'', hothers, ?_⟩
    rw [outcome_filter, outcome_filter, hfates]

/-- Three entries under the skip policy, the one in the middle without a topic; the ledger accepts
the first submission and refuses the second. -/
theorem complete_fetched_sampleEntries : ∃ u tally v' r',
    (sample .skip).Trace ((sample .skip).startTick
        ⟨(sample .skip).initialProgress, Shared.empty.setWatermark ⟨"sample"⟩ 5⟩)
      [.answered .head (.ok 8)] (.waiting (.fetch ⟨6, 8⟩) u) ∧
    (sample .skip).complete replay ((sample .skip).resumeTick u (.fetch ⟨6, 8⟩)
        (.ok [.sample, { LogEntry.sample with topic := none }, .sample]))
        [.answered (.submit .sample) (.ok ⟨"id"⟩),
          .answered (.submit .sample) (.error (.ledger "busy"))] =
      (.ok (.applied ⟨6, 8⟩ tally), v', r') ∧
    tally.forwarded + tally.ignored + tally.skipped = 3 := by
  obtain ⟨u, run⟩ : ∃ u, (sample .skip).Trace ((sample .skip).startTick
        ⟨(sample .skip).initialProgress, Shared.empty.setWatermark ⟨"sample"⟩ 5⟩)
      [.answered .head (.ok 8)] (.waiting (.fetch ⟨6, 8⟩) u) :=
    ⟨_, trace_iff_follow.2 rfl⟩
  obtain ⟨fates, outcome, v', r', hcomplete, -, -, skip, -⟩ := complete_fetched run (by simp) replay
    [.answered (.submit .sample) (.ok ⟨"id"⟩),
      .answered (.submit .sample) (.error (.ledger "busy"))]
    [.sample, { LogEntry.sample with topic := none }, .sample]
  obtain ⟨tally, rfl, hsum, -⟩ := skip rfl
  exact ⟨u, tally, v', r', run, hcomplete, hsum⟩

end Observer

end BridgeWatch
