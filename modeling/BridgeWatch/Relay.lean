import BridgeWatch.Shared

/-!
# Relaying events

An event is relayed by one call of the ledger. Before the call it is turned into a submission
(`RelayCall.submission`); after it, an accepted event is counted and any fault becomes a submission
fault (`Shared.settle`). `relay` does both around a ledger that answers at once.

Events can be relayed by the call that fits their kind, or by a named call, which refuses events of
the other kinds without a word to the ledger.
-/

namespace BridgeWatch

/-- The ways to relay an event. -/
inductive RelayCall
  /-- The call that fits the event. -/
  | forward
  | submitTransfer
  | confirmReceipt
  deriving DecidableEq, Repr

/-- What a way to relay an event submits. -/
def RelayCall.submission (call : RelayCall) (event : Event) : Except Fault Submission :=
  match call with
  | .submitTransfer => event.order.map .transfer
  | .confirmReceipt => event.notice.map .receipt
  | .forward =>
    if event.kind.isTransfer then event.order.map .transfer else event.notice.map .receipt

/-- Any fault of the ledger as a submission fault. -/
def Fault.asSubmission : Fault → Fault
  | .submission m => .submission m
  | f => .submission f.message

/-- Takes note of the ledger's answer to the submission of an event. -/
def Shared.settle (s : Shared) (event : Event) (answer : Except Fault CorrelationId) :
    Except Fault CorrelationId × Shared :=
  match answer with
  | .ok id => (.ok id, s.recordRelayed event)
  | .error f => (.error f.asSubmission, s)

/-- A ledger that answers submissions at once, and what it becomes. -/
abbrev LedgerAnswers (σ : Type) := σ → Submission → Except Fault CorrelationId × σ

/-- Relays an event through a ledger. -/
def relay {σ : Type} (ledger : LedgerAnswers σ) (call : RelayCall) (event : Event) (l : σ)
    (s : Shared) : Except Fault CorrelationId × σ × Shared :=
  match call.submission event with
  | .error f => (.error f, l, s)
  | .ok submission =>
    let (answer, l) := ledger l submission
    let (result, s) := s.settle event answer
    (result, l, s)

end BridgeWatch
