import BridgeWatch.Proofs.Totals
import BridgeWatch.Relay

/-!
# Calls that relay events

What a call that relays an event says to the ledger, what it gives, and what is counted.

* `Handling` is one call with all that was said to the ledger meanwhile (`LedgerAnswers.noting`) and
  with what the call gave; `relayAll` makes one call after the other.
* `Handling.Proper`: a call that takes the event asks the ledger once and passes the answer on, any
  error as a submission fault. The other calls are refused without a word to the ledger.
* `Shared.Accounts`: the counts and the counters are the numbers of successful calls.
* `relayAll_accounts` joins them for every sequence of calls and every ledger.
-/

namespace BridgeWatch

variable {σ : Type}

/-! ## One call -/

/-- A ledger that notes what it is told and what it answers. -/
def LedgerAnswers.noting (ledger : LedgerAnswers σ) :
    LedgerAnswers (σ × List (Submission × Except Fault CorrelationId)) :=
  fun (l, exchanges) submission =>
    let (answer, l) := ledger l submission
    (answer, l, exchanges ++ [(submission, answer)])

/-- One call that relays an event. -/
structure Handling where
  call : RelayCall
  event : Event
  /-- What was said to the ledger meanwhile, and the answers. -/
  exchanges : List (Submission × Except Fault CorrelationId)
  result : Except Fault CorrelationId

/-- Relays an event, and tells what a noting ledger notes of it. -/
def relayNoting (ledger : LedgerAnswers σ) (call : RelayCall) (event : Event) (l : σ) (s : Shared) :
    Handling × σ × Shared :=
  let (_, (_, exchanges), _) := relay ledger.noting call event (l, []) s
  let (result, l, s) := relay ledger call event l s
  (⟨call, event, exchanges, result⟩, l, s)

/-- The calls that relay events of a kind. -/
def RelayCall.Takes : RelayCall → EventKind → Prop
  | forward, _ => True
  | submitTransfer, kind => kind = .deposit ∨ kind = .burn
  | confirmReceipt, kind => kind = .release ∨ kind = .mintConfirmation

/-- The submission that tells the ledger of an event. -/
inductive Submission.Tells (event : Event) : Submission → Prop
  | transfer {order : TransferOrder} (kind : event.kind = .deposit ∨ event.kind = .burn)
    (payload : event.order = .ok order) : Tells event (.transfer order)
  | receipt {notice : ReceiptNotice}
    (kind : event.kind = .release ∨ event.kind = .mintConfirmation)
    (payload : event.notice = .ok notice) : Tells event (.receipt notice)

/-- How a call passes on the answer of the ledger. -/
inductive PassesOn : Except Fault CorrelationId → Except Fault CorrelationId → Prop
  | accepted (id : CorrelationId) : PassesOn (.ok id) (.ok id)
  | refused (m : String) : PassesOn (.error (.submission m)) (.error (.submission m))
  | failed {f : Fault} (other : ∀ m, f ≠ .submission m) :
    PassesOn (.error f) (.error (.submission f.message))

/-- How a call deals with its event. -/
inductive Handling.Proper : Handling → Prop
  /-- The ledger is asked once. -/
  | answered {call : RelayCall} {event : Event} {submission : Submission}
    {answer result : Except Fault CorrelationId} (takes : call.Takes event.kind)
    (tells : submission.Tells event) (passes : PassesOn answer result) :
    Proper ⟨call, event, [(submission, answer)], result⟩
  /-- An event that completes a transfer does not open one. -/
  | noTransfer {event : Event} (kind : event.kind = .release ∨ event.kind = .mintConfirmation) :
    Proper ⟨.submitTransfer, event, [],
      .error (.internal (event.kind.name ++ " is not a transfer"))⟩
  /-- An event that opens a transfer does not complete one. -/
  | noReceipt {event : Event} (kind : event.kind = .deposit ∨ event.kind = .burn) :
    Proper ⟨.confirmReceipt, event, [],
      .error (.internal (event.kind.name ++ " is not a receipt"))⟩

/-- What a call submits tells of the event, and otherwise the event is not for this call. -/
theorem RelayCall.submission_cases (call : RelayCall) (event : Event) :
    (∃ submission, call.submission event = .ok submission ∧ call.Takes event.kind ∧
        submission.Tells event) ∨
      ∃ f, call.submission event = .error f ∧ Handling.Proper ⟨call, event, [], .error f⟩ := by
  cases call with
  | forward =>
    cases event with
    | deposit => exact .inl ⟨_, rfl, trivial, .transfer (.inl rfl) rfl⟩
    | burn => exact .inl ⟨_, rfl, trivial, .transfer (.inr rfl) rfl⟩
    | release => exact .inl ⟨_, rfl, trivial, .receipt (.inl rfl) rfl⟩
    | mintConfirmation => exact .inl ⟨_, rfl, trivial, .receipt (.inr rfl) rfl⟩
  | submitTransfer =>
    cases event with
    | deposit => exact .inl ⟨_, rfl, .inl rfl, .transfer (.inl rfl) rfl⟩
    | burn => exact .inl ⟨_, rfl, .inr rfl, .transfer (.inr rfl) rfl⟩
    | release => exact .inr ⟨_, rfl, .noTransfer (.inl rfl)⟩
    | mintConfirmation => exact .inr ⟨_, rfl, .noTransfer (.inr rfl)⟩
  | confirmReceipt =>
    cases event with
    | deposit => exact .inr ⟨_, rfl, .noReceipt (.inl rfl)⟩
    | burn => exact .inr ⟨_, rfl, .noReceipt (.inr rfl)⟩
    | release => exact .inl ⟨_, rfl, .inl rfl, .receipt (.inl rfl) rfl⟩
    | mintConfirmation => exact .inl ⟨_, rfl, .inr rfl, .receipt (.inr rfl) rfl⟩

/-- The ledger's answer is passed on, and an event is counted exactly if it was accepted. -/
theorem Shared.settle_cases (s : Shared) (event : Event) (answer : Except Fault CorrelationId) :
    PassesOn answer (s.settle event answer).1 ∧
      (s.settle event answer).2 =
        if (s.settle event answer).1.isOk then s.recordRelayed event else s := by
  cases answer with
  | ok id => exact ⟨.accepted id, rfl⟩
  | error f =>
    refine ⟨?_, rfl⟩
    cases f with
    | submission m => exact .refused m
    | _ => exact .failed fun m h => by cases h

/-- **One call.** It deals with its event properly, and counts it exactly if it succeeds. -/
theorem relayNoting_spec (ledger : LedgerAnswers σ) (call : RelayCall) (event : Event) (l : σ)
    (s : Shared) :
    (relayNoting ledger call event l s).1.call = call ∧
      (relayNoting ledger call event l s).1.event = event ∧
      (relayNoting ledger call event l s).1.Proper ∧
      (relayNoting ledger call event l s).2.2 =
        if (relayNoting ledger call event l s).1.result.isOk then s.recordRelayed event else s := by
  rcases call.submission_cases event with ⟨submission, hs, takes, tells⟩ | ⟨f, hf, proper⟩
  · obtain ⟨passes, hshared⟩ := s.settle_cases event (ledger l submission).1
    unfold relayNoting relay
    rw [hs]
    exact ⟨rfl, rfl, .answered takes tells passes, hshared⟩
  · unfold relayNoting relay
    rw [hf]
    exact ⟨rfl, rfl, proper, rfl⟩

/-- The call that fits the event asks the ledger once, and never fails for a broken rule. -/
theorem Handling.Proper.forward {h : Handling} (proper : h.Proper) (hc : h.call = .forward) :
    (∃ submission answer, h.exchanges = [(submission, answer)] ∧ submission.Tells h.event) ∧
      ∀ m, h.result ≠ .error (.internal m) := by
  cases proper with
  | answered takes tells passes =>
    refine ⟨⟨_, _, rfl, tells⟩, fun m hm => ?_⟩
    cases hm
    cases passes
  | noTransfer | noReceipt => cases hc

/-! ## The books -/

/-- The call relayed an event of this kind with success. -/
def Handling.succeeds (kind : EventKind) (h : Handling) : Bool :=
  h.result.isOk && h.event.kind == kind

/-- The event of the call comes from this chain. -/
def Handling.isFrom (chain : ChainId) (h : Handling) : Bool := h.event.provenance.chain == chain

/-- A counter of accepted events of this kind, whatever their chain. -/
def Metric.isForwarded (kind : EventKind) : Metric → Bool
  | eventsForwarded _ k => k == kind
  | _ => false

/-- What a counter shows that starts when it counts for the first time. -/
def shown? (n : Nat) : Option Nat := if n = 0 then none else some n

@[simp]
theorem getD_shown? (n : Nat) : (shown? n).getD 0 = n := by
  unfold shown?
  split
  · rename_i h
    exact h.symm
  · rfl

@[simp]
theorem shown?_succ (n : Nat) : shown? (n + 1) = some (n + 1) := rfl

/-- The counts of accepted events are those of some calls. -/
structure Shared.Accounts (s : Shared) (hs : List Handling) : Prop where
  /-- The count of a kind is the number of successful calls with events of it. -/
  counts (kind : EventKind) : s.relayed.get kind = hs.countP (·.succeeds kind)
  /-- The counters split that number by the chains of the events. -/
  split (chain : ChainId) (kind : EventKind) : s.metrics.get? (.eventsForwarded chain kind) =
    shown? (hs.countP fun h => h.succeeds kind && h.isFrom chain)
  /-- The counters of all chains together have that number again. -/
  sums (kind : EventKind) :
    Assoc.sumOf (Metric.isForwarded kind) s.metrics.values = hs.countP (·.succeeds kind)

/-- The kinds with counts are those whose count is not zero. -/
theorem RelayCounts.mem_entries_iff {c : RelayCounts} {kind : EventKind} {n : Nat} :
    (kind, n) ∈ c.entries ↔ n = c.get kind ∧ n ≠ 0 := by
  unfold entries
  rw [List.mem_filterMap]
  constructor
  · rintro ⟨k, -, hk⟩
    split at hk
    · cases hk
    · rename_i hne
      cases hk
      exact ⟨rfl, hne⟩
  · rintro ⟨rfl, hne⟩
    exact ⟨kind, kind.mem_all, if_neg hne⟩

theorem Metrics.get?_count (ms : Metrics) (m m' : Metric) :
    (ms.count m).get? m' = if m' = m then some ((ms.get? m).getD 0 + 1) else ms.get? m' := by
  split
  · rename_i h
    rw [h]
    exact Assoc.find?_put_self _ _ _
  · rename_i h
    exact Assoc.find?_put_of_ne h _ _

namespace Shared.Accounts

variable {s : Shared} {hs : List Handling}

/-- Before any call nothing has been counted. -/
theorem start (w : WatermarkStore) : Accounts ⟨w, .zero, .empty⟩ [] where
  counts kind := by cases kind <;> rfl
  split _ _ := rfl
  sums _ := rfl

/-- A call keeps the books right. -/
theorem call (h : s.Accounts hs) (c : Handling) :
    (if c.result.isOk then s.recordRelayed c.event else s).Accounts (hs ++ [c]) := by
  cases hc : c.result.isOk with
  | false =>
    have hnot (kind : EventKind) : c.succeeds kind = false := by simp [Handling.succeeds, hc]
    exact
      { counts := fun kind => by simpa [hnot] using h.counts kind
        split := fun chain kind => by simpa [hnot] using h.split chain kind
        sums := fun kind => by simpa [hnot] using h.sums kind }
  | true =>
    have hsucc (kind : EventKind) : c.succeeds kind = (c.event.kind == kind) := by
      simp [Handling.succeeds, hc]
    refine ⟨fun kind => ?_, fun chain kind => ?_, fun kind => ?_⟩
    · show (s.relayed.count c.event.kind).get kind = _
      rw [RelayCounts.get_count, h.counts, List.countP_append, List.countP_singleton, hsucc]
      simp only [beq_iff_eq, @eq_comm _ kind]
    · show (s.metrics.count (.eventsForwarded c.event.provenance.chain c.event.kind)).get? _ = _
      rw [Metrics.get?_count, h.split, h.split, List.countP_append, List.countP_singleton]
      simp only [hsucc, Handling.isFrom, Bool.and_eq_true, beq_iff_eq, Metric.eventsForwarded.injEq]
      by_cases hsame : chain = c.event.provenance.chain ∧ kind = c.event.kind
      · obtain ⟨rfl, rfl⟩ := hsame
        simp
      · rw [if_neg hsame, if_neg fun heq => hsame ⟨heq.2.symm, heq.1.symm⟩, Nat.add_zero]
    · show Assoc.sumOf _ (s.metrics.count (.eventsForwarded _ c.event.kind)).values = _
      rw [Metrics.sumOf_count, h.sums, List.countP_append, List.countP_singleton, hsucc]
      rfl

end Shared.Accounts

/-! ## Sequences of calls -/

/-- Makes one call after the other. -/
def relayAll (ledger : LedgerAnswers σ) : List (RelayCall × Event) → σ → Shared →
    List Handling × σ × Shared
  | [], l, s => ([], l, s)
  | (call, event) :: calls, l, s =>
    let (h, l, s) := relayNoting ledger call event l s
    let (hs, l, s) := relayAll ledger calls l s
    (h :: hs, l, s)

/-- One handling for each call. -/
theorem map_relayAll (ledger : LedgerAnswers σ) (calls : List (RelayCall × Event)) (l : σ)
    (s : Shared) : (relayAll ledger calls l s).1.map (fun h => (h.call, h.event)) = calls := by
  induction calls generalizing l s with
  | nil => rfl
  | cons c calls ih =>
    obtain ⟨call, event⟩ := c
    obtain ⟨hcall, hevent, -, -⟩ := relayNoting_spec ledger call event l s
    rw [relayAll, List.map_cons, ih, hcall, hevent]

theorem proper_relayAll (ledger : LedgerAnswers σ) (calls : List (RelayCall × Event)) (l : σ)
    (s : Shared) : ∀ h ∈ (relayAll ledger calls l s).1, h.Proper := by
  induction calls generalizing l s with
  | nil => exact List.forall_mem_nil _
  | cons c calls ih =>
    obtain ⟨-, -, proper, -⟩ := relayNoting_spec ledger c.1 c.2 l s
    exact List.forall_mem_cons.2 ⟨proper, ih _ _⟩

/-- Books that are right before some calls are right after them. -/
theorem accounts_relayAll (ledger : LedgerAnswers σ) (calls : List (RelayCall × Event)) (l : σ)
    {s : Shared} {hs : List Handling} (h : s.Accounts hs) :
    (relayAll ledger calls l s).2.2.Accounts (hs ++ (relayAll ledger calls l s).1) := by
  induction calls generalizing l s hs with
  | nil =>
    rw [relayAll, List.append_nil]
    exact h
  | cons c calls ih =>
    obtain ⟨-, hevent, -, hshared⟩ := relayNoting_spec ledger c.1 c.2 l s
    have hnext := h.call (relayNoting ledger c.1 c.2 l s).1
    rw [hevent, ← hshared] at hnext
    have hrest := ih (relayNoting ledger c.1 c.2 l s).2.1 hnext
    rwa [List.append_assoc] at hrest

/-- **Calls that relay events.** Every call of a sequence deals with its event properly: a call that
takes the event asks the ledger exactly once, by the submission of its kind, and gives the
identifier it is answered or a submission fault; a call that does not take it is refused without a
word to the ledger. The forwarding call is never refused. After the sequence the counts by kind, the
counters by kind and chain, and the sums of the counters over all chains are the numbers of
successful calls. -/
theorem relayAll_accounts (ledger : LedgerAnswers σ) (calls : List (RelayCall × Event)) (l : σ)
    (w : WatermarkStore) :
    let (hs, _, s) := relayAll ledger calls l ⟨w, .zero, .empty⟩
    hs.map (fun h => (h.call, h.event)) = calls ∧
      (∀ h ∈ hs, h.Proper ∧ (h.call = .forward →
        (∃ submission answer, h.exchanges = [(submission, answer)] ∧ submission.Tells h.event) ∧
          ∀ m, h.result ≠ .error (.internal m))) ∧
      (∀ kind n, (kind, n) ∈ s.relayed.entries ↔ n = hs.countP (·.succeeds kind) ∧ n ≠ 0) ∧
      (∀ kind, Assoc.sumOf (Metric.isForwarded kind) s.metrics.values =
        hs.countP (·.succeeds kind)) ∧
      ∀ chain kind, s.metrics.get? (.eventsForwarded chain kind) =
        shown? (hs.countP fun h => h.succeeds kind && h.isFrom chain) := by
  have books := accounts_relayAll ledger calls l (.start w)
  refine ⟨map_relayAll .., fun h hh => ?_, fun kind n => ?_, books.sums, books.split⟩
  · have proper := proper_relayAll ledger calls l _ h hh
    exact ⟨proper, proper.forward⟩
  · rw [RelayCounts.mem_entries_iff, books.counts]
    rfl

end BridgeWatch
