import BridgeWatch.Assoc
import BridgeWatch.Observer.Run

/-!
# Scripted remote ends

A rehearsal runs observers against remote ends that follow a script: an endpoint for each chain,
with a head, a set of logs, faults waiting to be answered and delays, and one ledger, which accepts
every submission but those to certain recipients. Every call is recorded when it starts.
-/

namespace BridgeWatch.Rehearsal

/-- A scripted endpoint of a chain. -/
structure Endpoint where
  head : UInt64
  logs : List LogEntry
  /-- Faults of the next calls that read the head. -/
  headFaults : List Fault
  /-- Faults of the next calls that fetch logs. -/
  fetchFaults : List Fault
  /-- Milliseconds until a call that reads the head is answered. -/
  headDelay : Nat
  /-- Milliseconds until a call that fetches logs is answered. -/
  fetchDelay : Nat
  deriving Repr, Inhabited

/-- An endpoint at a given head. -/
def Endpoint.at_ (head : UInt64) : Endpoint := ⟨head, [], [], [], 0, 0⟩

/-- A scripted ledger. -/
structure ScriptedLedger where
  /-- Last processed heights; zero for any other chain. -/
  heights : List (ChainId × UInt64)
  /-- The fault of every height lookup, if they fail. -/
  heightFault : Option Fault
  /-- The recipients to whom submissions fail, each with the fault. -/
  refusals : List (String × Fault)
  /-- Submissions accepted so far. -/
  accepted : Nat
  /-- Milliseconds until a submission is answered. -/
  submitDelay : Nat
  deriving Repr, Inhabited

/-- A ledger with given heights that accepts every submission. -/
def ScriptedLedger.knowing (heights : List (ChainId × UInt64)) (submitDelay : Nat) :
    ScriptedLedger :=
  ⟨heights, none, [], 0, submitDelay⟩

/-- The recipient of a submission. -/
def recipient : Submission → String
  | .transfer order => order.recipient
  | .receipt notice => notice.recipient

/-- The ledger's answer to a submission: the identifiers it gives are numbered. -/
def ScriptedLedger.submit (l : ScriptedLedger) (s : Submission) :
    Except Fault CorrelationId × ScriptedLedger :=
  match Assoc.find? (recipient s) l.refusals with
  | some f => (.error f, l)
  | none =>
    let n := l.accepted + 1
    (.ok ⟨"0xid" ++ Text.decimal n⟩, { l with accepted := n })

/-- The ledger's record of a chain. -/
def ScriptedLedger.recordedHeight (l : ScriptedLedger) (chain : ChainId) : Except Fault UInt64 :=
  match l.heightFault with
  | some f => .error f
  | none => .ok ((Assoc.find? chain l.heights).getD 0)

/-- The endpoint's answer to a call that reads the head. -/
def Endpoint.readHead (e : Endpoint) : Except Fault UInt64 × Endpoint :=
  match e.headFaults with
  | f :: fs => (.error f, { e with headFaults := fs })
  | [] => (.ok e.head, e)

/-- The endpoint's answer to a call that fetches logs: those of the contract in the window, in the
order in which they were put there. -/
def Endpoint.fetch (e : Endpoint) (contract : Address) (w : Window) :
    Except Fault (List LogEntry) × Endpoint :=
  match e.fetchFaults with
  | f :: fs => (.error f, { e with fetchFaults := fs })
  | [] =>
    let isWanted := fun (l : LogEntry) =>
      decide (l.contract = contract) && decide (w.first ≤ l.height) && decide (l.height ≤ w.last)
    (.ok (e.logs.filter isWanted), e)

/-- A call of a remote end. -/
structure Call where
  time : Nat
  /-- The chain whose observer calls. -/
  chain : ChainId
  request : Request
  deriving Repr

/-- The remote ends and the calls they got so far, in order. -/
structure World where
  endpoints : List (ChainId × Endpoint)
  ledger : ScriptedLedger
  calls : List Call
  deriving Repr, Inhabited

namespace World

/-- The endpoint of a chain. -/
def endpoint (w : World) (chain : ChainId) : Endpoint :=
  (Assoc.find? chain w.endpoints).getD (.at_ 0)

/-- Changes the endpoint of a chain. -/
def modifyEndpoint (w : World) (chain : ChainId) (f : Endpoint → Endpoint) : World :=
  { w with endpoints := Assoc.put chain (f (w.endpoint chain)) w.endpoints }

/-- Records a call. -/
def note (w : World) (time : Nat) (chain : ChainId) (q : Request) : World :=
  { w with calls := w.calls ++ [⟨time, chain, q⟩] }

/-- Milliseconds until a call of a chain's observer is answered. -/
def delay (w : World) (chain : ChainId) : Request → Nat
  | .recordedHeight _ => 0
  | .head => (w.endpoint chain).headDelay
  | .logs _ _ => (w.endpoint chain).fetchDelay
  | .submit _ => w.ledger.submitDelay

/-- The answer to a call of a chain's observer. -/
def answer (chain : ChainId) : (q : Request) → World → q.Reply × World
  | .recordedHeight c, w => (w.ledger.recordedHeight c, w)
  | .head, w =>
    let (r, e) := (w.endpoint chain).readHead
    (r, { w with endpoints := Assoc.put chain e w.endpoints })
  | .logs contract window, w =>
    let (r, e) := (w.endpoint chain).fetch contract window
    (r, { w with endpoints := Assoc.put chain e w.endpoints })
  | .submit s, w =>
    let (r, l) := w.ledger.submit s
    (r, { w with ledger := l })

/-- The remote ends of a chain's observer as ends that answer at once, and record each call. -/
def remote (chain : ChainId) : Remote World where
  answer q w := answer chain q (w.note 0 chain q)

end World

end BridgeWatch.Rehearsal
