import BridgeWatch.Chain
import BridgeWatch.Window

/-!
# Status and health of an observer

A tick ends in an outcome or a fault. The status of an observer is what is remembered of its ticks:
how many failed in a row, the last fault, the last head, the counters. Its health is a judgement of
the status: unhealthy from a given number of failures in a row on.
-/

namespace BridgeWatch

/-- What an observer is doing. -/
inductive ObserverState
  /-- Waiting for the next tick. -/
  | idle
  /-- Reading the head and fetching logs. -/
  | scanning
  /-- Decoding and relaying the logs of a window. -/
  | applying
  /-- Waiting for the next tick after one that failed. -/
  | faulted
  deriving DecidableEq, Repr, Inhabited

/-- The name of a state. -/
def ObserverState.name : ObserverState → String
  | .idle => "idle"
  | .scanning => "scanning"
  | .applying => "applying"
  | .faulted => "faulted"

/-- How the entries of a window were dealt with. -/
structure Tally where
  /-- Entries whose event the ledger accepted. -/
  forwarded : Nat
  /-- Entries whose topic is not in the schema. -/
  ignored : Nat
  /-- Entries that could not be decoded or relayed. -/
  skipped : Nat
  deriving DecidableEq, Repr, Inhabited

/-- No entry dealt with. -/
def Tally.zero : Tally := ⟨0, 0, 0⟩

/-- How a tick ends that does not fail. -/
inductive TickOutcome
  /-- The chain got its first watermark; nothing was scanned. -/
  | initialized (watermark : UInt64)
  /-- The head is not past the watermark. -/
  | noNewBlocks (head : UInt64)
  /-- All entries of the window were dealt with and the watermark moved to its end. -/
  | applied (window : Window) (tally : Tally)
  /-- An entry failed under the hold policy; the watermark stays. -/
  | held (window : Window) (forwarded : Nat) (error : String)
  deriving DecidableEq, Repr, Inhabited

/-- The name under which an outcome is counted. -/
def TickOutcome.label : TickOutcome → String
  | .initialized _ => "initialized"
  | .noNewBlocks _ => "no_new_blocks"
  | .applied _ _ => "applied"
  | .held _ _ _ => "held"

/-- The counters of an observer, in numbers of any size. They stand for counters of 64 bits, with
which they agree as long as they are below `2 ^ 64`. -/
structure ObserverCounters where
  ticks : Nat
  windowsApplied : Nat
  eventsForwarded : Nat
  eventsIgnored : Nat
  eventsSkipped : Nat
  connectionFailures : Nat
  rangeRejections : Nat
  deriving DecidableEq, Repr, Inhabited

/-- Nothing counted. -/
def ObserverCounters.zero : ObserverCounters := ⟨0, 0, 0, 0, 0, 0, 0⟩

/-- What is remembered of an observer's ticks. -/
structure ObserverStatus where
  state : ObserverState
  lastHead : Option UInt64
  /-- The window of the next scan, as it was when the last tick ended. -/
  window : UInt64
  consecutiveFailures : Nat
  lastError : Option String
  hadSuccess : Bool
  counters : ObserverCounters
  deriving DecidableEq, Repr, Inhabited

namespace ObserverStatus

/-- The status before the first tick. -/
def initial (window : UInt64) : ObserverStatus := ⟨.idle, none, window, 0, none, false, .zero⟩

/-- The greatest number of failures that is counted. -/
def maxFailures : Nat := UInt32.size - 1

/-- Takes note of a tick that succeeded. -/
def recordSuccess (s : ObserverStatus) : ObserverStatus :=
  { s with state := .idle, consecutiveFailures := 0, lastError := none, hadSuccess := true }

/-- Takes note of a tick that failed. -/
def recordFailure (s : ObserverStatus) (error : String) : ObserverStatus :=
  { s with
    state := .faulted
    consecutiveFailures := min maxFailures (s.consecutiveFailures + 1)
    lastError := some error }

end ObserverStatus

/-- A judgement of an observer. -/
inductive HealthLevel
  | healthy
  | degraded
  | unhealthy
  | unknown
  deriving DecidableEq, Repr, Inhabited

/-- The name of a judgement. -/
def HealthLevel.name : HealthLevel → String
  | .healthy => "healthy"
  | .degraded => "degraded"
  | .unhealthy => "unhealthy"
  | .unknown => "unknown"

/-- The judgement of a status; zero failures are taken as one. -/
def ObserverStatus.level (s : ObserverStatus) (unhealthyAfter : UInt32) : HealthLevel :=
  if max 1 unhealthyAfter.toNat ≤ s.consecutiveFailures then .unhealthy
  else if 0 < s.consecutiveFailures then .degraded
  else if s.hadSuccess then .healthy
  else .unknown

/-- A report on an observer. -/
structure HealthReport where
  chain : ChainId
  level : HealthLevel
  status : ObserverStatus
  watermark : Option UInt64
  window : UInt64
  deriving DecidableEq, Repr

end BridgeWatch
