import BridgeWatch.Observer.Status
import BridgeWatch.Settings.Basic
import BridgeWatch.Shared

/-!
# Observers

An observer watches the bridge contract of one chain. What does not change while it runs is an
`Observer`; what does is its `Progress`. The window of the next scan lies between one block and the
observer's maximum.
-/

namespace BridgeWatch

/-- An observer of one chain. -/
structure Observer where
  chain : ChainId
  schema : Schema
  contract : Address
  /-- Milliseconds between ticks. -/
  pollInterval : Nat
  /-- The most blocks to scan in one tick. -/
  maxWindow : UInt64
  policy : FailurePolicy
  /-- Failures in a row from which on the observer counts as unhealthy. -/
  unhealthyAfter : UInt32
  deriving Repr, Inhabited

/-- What changes while an observer runs. -/
structure Progress where
  /-- The most blocks to scan in the next tick. -/
  window : UInt64
  status : ObserverStatus
  deriving DecidableEq, Repr, Inhabited

namespace Observer

/-- The observer that a chain's settings describe. The schema is looked at before the address. -/
def ofSettings (chain : ChainId) (s : ChainSettings) (unhealthyAfter : UInt32) :
    Except Fault Observer :=
  match Schema.ofSettings s.schema with
  | .error f => .error f.toFault
  | .ok schema =>
    match s.contract with
    | .error _ => .error (.invalidAddress s.contractAddress)
    | .ok contract =>
      .ok ⟨chain, schema, contract, s.pollInterval, max s.maxWindow 1, s.failurePolicy,
        unhealthyAfter⟩

/-- The progress of an observer before its first tick. -/
def initialProgress (o : Observer) : Progress := ⟨o.maxWindow, .initial o.maxWindow⟩

/-- A report on an observer. -/
def health (o : Observer) (p : Progress) (s : Shared) : HealthReport :=
  ⟨o.chain, p.status.level o.unhealthyAfter, p.status, s.watermark? o.chain, p.status.window⟩

end Observer

/-- Failures in a row after which an observer counts as unhealthy if nothing else is said. -/
def defaultUnhealthyAfter : UInt32 := 5

end BridgeWatch
