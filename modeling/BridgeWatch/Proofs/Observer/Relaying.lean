import BridgeWatch.Abi.Encode
import BridgeWatch.Proofs.Observer.Course

/-!
# How a tick deals with the logs of its window

A tick that is left alone either sees no logs and submits nothing, or reads the head, gets the logs
of one window and relays them (`Trace.tick_cases`).

* Under the skip policy the window is always applied, and what is submitted is what the logs
  decode to, in their order (`Trace.relay_skip`).
* Under the hold policy the window is applied only if each of its logs is outside the schema or was
  accepted by the ledger in this very tick (`Trace.relay_hold`).
-/

namespace BridgeWatch

namespace TickEvent

/-- The submissions made in a tick, in order. -/
def submissions (es : List TickEvent) : List Submission := es.filterMap submission?

/-- The submissions that the ledger accepted in a tick. -/
def acceptances (es : List TickEvent) : List Submission := es.filterMap accepted?

/-- The submissions that the ledger refused in a tick. -/
def refusals (es : List TickEvent) : List Submission := es.filterMap refused?

/-- The logs that a tick got. -/
def logs (es : List TickEvent) : List LogEntry := es.flatMap fetched

end TickEvent

open TickEvent

/-- The forwarding call submits every event. -/
theorem RelayCall.exists_submission (event : Event) :
    ∃ s, RelayCall.forward.submission event = .ok s := by
  cases event <;> exact ⟨_, rfl⟩

namespace Observer

/-- What the ledger is asked to do about a log: nothing unless the log decodes. -/
def submission? (o : Observer) (e : LogEntry) : Option Submission :=
  match decodeEntry o.chain o.schema e with
  | .ok event => (RelayCall.forward.submission event).toOption
  | .error _ => none

theorem submission?_of_ignored {o : Observer} {e : LogEntry} (h : o.classify e = .ignored) :
    o.submission? e = none := by
  unfold classify at h
  unfold submission?
  split at h
  · rename_i hd
    rw [hd]
  · cases h
  · split at h <;> cases h

/-- A log that fails before it is submitted does not decode. -/
theorem decode_of_failed {o : Observer} {e : LogEntry} {cause : Fault}
    (h : o.classify e = .failed cause) : decodeEntry o.chain o.schema e = .error cause := by
  unfold classify at h
  split at h
  · cases h
  · rename_i hd
    cases h
    exact hd
  · rename_i event hd
    obtain ⟨s, hs⟩ := RelayCall.exists_submission event
    rw [hs] at h
    cases h

theorem submission?_of_failed {o : Observer} {e : LogEntry} {cause : Fault}
    (h : o.classify e = .failed cause) : o.submission? e = none := by
  rw [submission?, decode_of_failed h]

/-- A log is submitted exactly when it decodes. -/
theorem decode_of_submitted {o : Observer} {e : LogEntry} {event : Event} {s : Submission}
    (h : o.classify e = .submitted event s) :
    decodeEntry o.chain o.schema e = .ok event ∧ RelayCall.forward.submission event = .ok s := by
  unfold classify at h
  split at h
  · cases h
  · cases h
  · rename_i event' hd
    split at h
    · cases h
    · rename_i s' hs
      cases h
      exact ⟨hd, hs⟩

theorem submission?_of_submitted {o : Observer} {e : LogEntry} {event : Event} {s : Submission}
    (h : o.classify e = .submitted event s) : o.submission? e = some s := by
  obtain ⟨hd, hs⟩ := decode_of_submitted h
  simp only [submission?, hd, hs]
  rfl

/-! ## The loop over the entries -/

section Loop

variable {o : Observer} {w : Window} {v v' : View} {es : List TickEvent} {result : TickResult}

theorem afterSubmission_error (tally : Tally) (event : Event) (rest : List LogEntry) (f : Fault) :
    o.afterSubmission w tally event rest (.error f) v =
      match o.policy with
      | .hold => o.finishTick (.ok (.held w tally.forwarded f.asSubmission.message))
          (o.countSkipped f.asSubmission v)
      | .skip => o.relayEntries w { tally with skipped := tally.skipped + 1 } rest
          (o.countSkipped f.asSubmission v) := rfl

/-- A window that ends behind the watermark is applied. -/
theorem applyWindow_eq (tally : Tally) (h : ∃ m, v.watermark? o.chain = some m ∧ w.Follows m) :
    ∃ v', o.applyWindow w tally v = .finished (.ok (.applied w tally)) v' := by
  obtain ⟨m, hm, hw⟩ := h
  unfold applyWindow
  rcases v.shared.refused_or_advanced o.chain w.last with ⟨current, hcurrent, hlt, -⟩ | ⟨-, ha⟩
  · obtain rfl : m = current := Option.some.inj (hm.symm.trans hcurrent)
    exact absurd hw.lt_last (UInt64.lt_asymm hlt)
  · rw [ha]
    exact ⟨_, rfl⟩

/-- **Under the skip policy a window is always applied**, and each of its logs that decodes is
submitted once, in their order. -/
theorem Trace.relay_skip (ho : o.policy = .skip) {tally : Tally} {entries : List LogEntry}
    (hw : ∃ m, v.watermark? o.chain = some m ∧ w.Follows m)
    (h : o.Trace (o.relayEntries w tally entries v) es (.finished result v'))
    (hu : Undisturbed es) :
    (∃ tally', result = .ok (.applied w tally')) ∧
      submissions es = entries.filterMap o.submission? := by
  induction entries generalizing tally v es with
  | nil =>
    obtain ⟨u, hu⟩ := applyWindow_eq tally hw
    rw [relayEntries, hu] at h
    obtain ⟨rfl, ht⟩ := h.of_finished
    cases ht
    exact ⟨⟨tally, rfl⟩, rfl⟩
  | cons e entries ih =>
    rw [relayEntries] at h
    cases hc : o.classify e with
    | ignored =>
      simp only [hc] at h
      rw [List.filterMap_cons_none (submission?_of_ignored hc)]
      exact ih hw h hu
    | failed f =>
      simp only [hc, ho] at h
      rw [List.filterMap_cons_none (submission?_of_failed hc)]
      exact ih (v := o.countSkipped f v) hw h hu
    | submitted event s =>
      simp only [hc] at h
      rw [List.filterMap_cons_some (submission?_of_submitted hc)]
      obtain ⟨reply, fs, rfl, h, hfs⟩ := h.of_waiting_finished hu
      have hrest : (∃ tally', result = .ok (.applied w tally')) ∧
          submissions fs = entries.filterMap o.submission? := by
        cases reply with
        | ok id => exact ih (v := ⟨v.progress, v.shared.recordRelayed event⟩) hw h hfs
        | error f =>
          simp only [resumeTick, afterSubmission_error, ho] at h
          exact ih (v := o.countSkipped f.asSubmission v) hw h hfs
      obtain ⟨hr, hs⟩ := hrest
      exact ⟨hr, congrArg (s :: ·) hs⟩

/-- **Under the hold policy a window is applied only if all of it was dealt with in this tick**:
each log is outside the schema or is submitted, the ledger accepts each submission, in their order,
and refuses none. -/
theorem Trace.relay_hold (ho : o.policy = .hold) {tally tally' : Tally} {w' : Window}
    {entries : List LogEntry}
    (h : o.Trace (o.relayEntries w tally entries v) es (.finished (.ok (.applied w' tally')) v'))
    (hu : Undisturbed es) :
    w' = w ∧ refusals es = [] ∧ acceptances es = entries.filterMap o.submission? ∧
      ∀ e ∈ entries, o.classify e = .ignored ∨ ∃ event s, o.classify e = .submitted event s := by
  induction entries generalizing tally v es with
  | nil =>
    unfold relayEntries applyWindow at h
    split at h
    · obtain ⟨-, ht⟩ := Trace.of_finished h
      cases ht
    · obtain ⟨rfl, ht⟩ := Trace.of_finished h
      cases ht
      refine ⟨rfl, rfl, rfl, ?_⟩
      intro e he
      cases he
  | cons e entries ih =>
    rw [relayEntries] at h
    cases hc : o.classify e with
    | ignored =>
      simp only [hc] at h
      obtain ⟨hw, hr, ha, hall⟩ := ih h hu
      rw [List.filterMap_cons_none (submission?_of_ignored hc)]
      exact ⟨hw, hr, ha, List.forall_mem_cons.2 ⟨.inl hc, hall⟩⟩
    | failed f =>
      simp only [hc, ho] at h
      obtain ⟨-, ht⟩ := Trace.of_finished h
      cases ht
    | submitted event s =>
      simp only [hc] at h
      obtain ⟨reply, fs, rfl, h, hfs⟩ := h.of_waiting_finished hu
      cases reply with
      | ok id =>
        obtain ⟨hw, hr, ha, hall⟩ := ih h hfs
        rw [List.filterMap_cons_some (submission?_of_submitted hc)]
        exact ⟨hw, hr, congrArg (s :: ·) ha, List.forall_mem_cons.2 ⟨.inr ⟨event, s, hc⟩, hall⟩⟩
      | error f =>
        simp only [resumeTick, afterSubmission_error, ho] at h
        obtain ⟨-, ht⟩ := Trace.of_finished h
        cases ht

end Loop

/-! ## What a tick sees and submits -/

/-- A tick that has been told heights only has submitted nothing and got no logs. -/
theorem nothing_of_heights {es : List TickEvent} (h : ∀ e ∈ es, e.IsHeight) :
    submissions es = [] ∧ refusals es = [] ∧ logs es = [] := by
  have none_of_height : ∀ e ∈ es, e.submission? = none ∧ e.refused? = none ∧ e.fetched = [] := by
    intro e he
    have height := h e he
    unfold IsHeight at height
    split at height
    · exact ⟨rfl, rfl, rfl⟩
    · exact ⟨rfl, rfl, rfl⟩
    all_goals exact height.elim
  exact ⟨List.filterMap_eq_nil_iff.2 fun e he => (none_of_height e he).1,
    List.filterMap_eq_nil_iff.2 fun e he => (none_of_height e he).2.1,
    List.flatMap_eq_nil_iff.2 fun e he => (none_of_height e he).2.2⟩

/-- A tick that has come to its last stage gets no more logs. -/
theorem Trace.logs_of_stage {o : Observer} {s t : TickStep} {es : List TickEvent}
    (h : o.Trace s es t) (hs : s.stage = 0) : logs es = [] := by
  refine List.flatMap_eq_nil_iff.2 ?_
  intro e he
  have late := (h.late_of_stage hs).2 e he
  unfold IsLate at late
  split at late
  · rfl
  · rfl
  all_goals exact late.elim

/-- **What a tick that is left alone sees.** Either it sees no log, submits nothing and applies
no window, or it reads the head, gets the logs of a window that follows the watermark, and relays
them. -/
theorem Trace.tick_cases {o : Observer} {v v' : View} {es : List TickEvent} {result : TickResult}
    (h : o.Trace (o.startTick v) es (.finished result v')) (hu : Undisturbed es) :
    (submissions es = [] ∧ refusals es = [] ∧ logs es = [] ∧ result.applied? = none) ∨
      ∃ (head : UInt64) (w : Window) (entries : List LogEntry) (fs : List TickEvent) (u : View),
        es = .answered .head (.ok head) :: .answered (.logs o.contract w) (.ok entries) :: fs ∧
          logs es = entries ∧ (∃ m, u.watermark? o.chain = some m ∧ w.Follows m) ∧
          u.watermark? o.chain = v.watermark? o.chain ∧
          o.Trace (o.relayEntries w .zero entries u) fs (.finished result v') ∧
          Undisturbed fs := by
  cases h.course hu with
  | ended heights aimless idle last window =>
    cases last
    obtain ⟨hs, hr, hl⟩ := nothing_of_heights heights
    exact .inl ⟨hs, hr, hl, idle⟩
  | failed aims last window =>
    cases last
    exact .inl ⟨rfl, rfl, rfl, rfl⟩
  | @relaying head w entries fs u _ aims run quiet watermark window =>
    obtain ⟨m, hm, hw⟩ := aims
    refine .inr ⟨head, w, entries, fs, u, rfl, ?_, ?_, watermark, run, quiet⟩
    · show [] ++ (entries ++ logs fs) = entries
      rw [run.logs_of_stage (o.relayEntries_measure ..).1, List.nil_append, List.append_nil]
    · exact ⟨m, watermark.trans hm, (Window.follows_next? hw).1⟩

/-! ## Endpoints with a fixed set of logs -/

/-- Each range that the endpoint answers in a tick, it answers from one set of logs. -/
def Serves (all : List LogEntry) (es : List TickEvent) : Prop :=
  ∀ contract w entries, .answered (.logs contract w) (.ok entries) ∈ es →
    entries.Perm (logsIn all contract w)

/-- Under the skip policy, a tick that applies a window got the logs of the window and submitted
what they decode to; any other tick got no logs and submitted nothing. -/
theorem Trace.tick_skip {o : Observer} (ho : o.policy = .skip) {v v' : View}
    {es : List TickEvent} {result : TickResult} {all : List LogEntry}
    (h : o.Trace (o.startTick v) es (.finished result v')) (hu : Undisturbed es)
    (hs : Serves all es) :
    (result.applied? = none ∧ submissions es = [] ∧ logs es = []) ∨
      ∃ w tally, result = .ok (.applied w tally) ∧
        submissions es = (logs es).filterMap o.submission? ∧
        (logs es).Perm (logsIn all o.contract w) := by
  rcases h.tick_cases hu with ⟨h₁, -, h₂, h₃⟩ | ⟨head, w, entries, fs, u, rfl, hl, hw, -, run, hfs⟩
  · exact .inl ⟨h₃, h₁, h₂⟩
  · obtain ⟨⟨tally, rfl⟩, hsub⟩ := run.relay_skip ho hw hfs
    have hperm := hs o.contract w entries (by simp)
    refine .inr ⟨w, tally, rfl, ?_, ?_⟩
    · rw [hl]
      exact hsub
    · rwa [hl]

end Observer

/-! ## Episodes -/

namespace Episode

/-- The watermark that an episode sets. -/
def written? (i : Episode) : Option UInt64 := i.result?.bind TickResult.written?

/-- The window that an episode applies. -/
def applied? (i : Episode) : Option Window := i.result?.bind TickResult.applied?

/-- The height at which an episode initializes the chain. -/
def initialized? : Episode → Option UInt64
  | tick _ (.ok (.initialized height)) => some height
  | _ => none

/-- The logs that the tick of an episode got. -/
def logs (i : Episode) : List LogEntry := TickEvent.logs i.events

/-- The submissions made in the tick of an episode, in order. -/
def submissions (i : Episode) : List Submission := TickEvent.submissions i.events

/-- The submissions that the ledger accepted in the tick of an episode, in order. -/
def acceptances (i : Episode) : List Submission := TickEvent.acceptances i.events

/-- The watermarks that some episodes set, in order. -/
def heights (is : List Episode) : List UInt64 := is.filterMap written?

/-- The windows that some episodes applied, in order. -/
def windows (is : List Episode) : List Window := is.filterMap applied?

/-- The heights at which some episodes initialized the chain, in order. -/
def initializations (is : List Episode) : List UInt64 := is.filterMap initialized?

/-- An episode that neither initializes the chain nor applies a window writes nothing. -/
theorem written?_eq_none {i : Episode} (hi : i.initialized? = none) (ha : i.applied? = none) :
    i.written? = none := by
  cases i with
  | tick es result =>
    cases result with
    | error f => rfl
    | ok outcome =>
      cases outcome with
      | initialized height => cases hi
      | applied w tally => cases ha
      | noNewBlocks | held => rfl
  | dropped | restart | overridden => rfl

theorem filterMap_concat {α : Type} (f : Episode → Option α) (is : List Episode) (i : Episode) :
    (is ++ [i]).filterMap f = is.filterMap f ++ (f i).toList := by
  rw [List.filterMap_append]
  cases h : f i with
  | none => rw [List.filterMap_cons_none h]; rfl
  | some a => rw [List.filterMap_cons_some h]; rfl

theorem heights_concat (is : List Episode) (i : Episode) :
    heights (is ++ [i]) = heights is ++ i.written?.toList := filterMap_concat ..

theorem windows_concat (is : List Episode) (i : Episode) :
    windows (is ++ [i]) = windows is ++ i.applied?.toList := filterMap_concat ..

theorem initializations_concat (is : List Episode) (i : Episode) :
    initializations (is ++ [i]) = initializations is ++ i.initialized?.toList :=
  filterMap_concat ..

end Episode

namespace Observer

/-- A tick that is left alone initializes the chain, or applies a window that follows the
watermark, or leaves the watermark as it is. -/
theorem Trace.watermark_cases {o : Observer} {v v' : View} {es : List TickEvent}
    {result : TickResult} (h : o.Trace (o.startTick v) es (.finished result v'))
    (hu : Undisturbed es) :
    (∃ height, result = .ok (.initialized height) ∧ v.watermark? o.chain = none ∧
        v'.watermark? o.chain = some height) ∨
      (∃ m w tally, result = .ok (.applied w tally) ∧ v.watermark? o.chain = some m ∧
        w.Follows m ∧ v'.watermark? o.chain = some w.last) ∨
      ((Episode.tick es result).initialized? = none ∧ (Episode.tick es result).applied? = none ∧
        v'.watermark? o.chain = v.watermark? o.chain) := by
  obtain ⟨hfits, hw⟩ := h.of_startTick hu
  match result, hfits, hw with
  | .ok (.initialized height), hfits, hw => exact .inl ⟨height, rfl, hfits, hw⟩
  | .ok (.applied w tally), ⟨m, hm, hf⟩, hw => exact .inr (.inl ⟨m, w, tally, rfl, hm, hf, hw⟩)
  | .ok (.noNewBlocks _), _, hw => exact .inr (.inr ⟨rfl, rfl, hw⟩)
  | .ok (.held _ _ _), _, hw => exact .inr (.inr ⟨rfl, rfl, hw⟩)
  | .error _, _, hw => exact .inr (.inr ⟨rfl, rfl, hw⟩)

end Observer

/-! ## A sample -/

/-- An observer of a contract that emits one kind of event. -/
def Observer.sample (policy : FailurePolicy) : Observer where
  chain := ⟨"sample"⟩
  schema := ⟨[⟨.release, "Unlock", [.string, .uint 256], "Unlock(string,uint256)", ⟨1⟩⟩]⟩
  contract := ⟨2⟩
  pollInterval := 1000
  maxWindow := 10
  policy := policy
  unhealthyAfter := 5

/-- A log that the sample observer submits. -/
def LogEntry.sample : LogEntry where
  height := 7
  transaction := ⟨0⟩
  topic := some ⟨1⟩
  payload := Abi.encode [.string ['r'], .uint ⟨5⟩]
  contract := ⟨2⟩
  index := 0

/-- What the sample observer submits for the sample log. -/
def Submission.sample : Submission := .receipt ⟨"", "", 7, "5", "r"⟩

end BridgeWatch
