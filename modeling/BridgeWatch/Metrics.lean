import BridgeWatch.Assoc
import BridgeWatch.Binary64
import BridgeWatch.Chain
import BridgeWatch.Event.Kind

/-!
# Metrics

The gauges and counters that the program keeps for its operators. A gauge shows a height as the
double nearest to it; a counter counts.
-/

namespace BridgeWatch

/-- What is measured. -/
inductive Metric
  /-- Gauge: the watermark of a chain. -/
  | watermark (chain : ChainId)
  /-- Gauge: the last head read from a chain. -/
  | head (chain : ChainId)
  /-- Counter: ticks by outcome. -/
  | ticks (chain : ChainId) (outcome : String)
  /-- Counter: ticks that failed for want of a connection. -/
  | connectionFailures (chain : ChainId)
  /-- Counter: events the ledger accepted, by the chain they come from. -/
  | eventsForwarded (chain : ChainId) (kind : EventKind)
  /-- Counter: log entries that could not be relayed. -/
  | eventsSkipped (chain : ChainId) (reason : String)
  deriving DecidableEq, Repr

namespace Metric

/-- The name under which a metric is published. -/
def name : Metric → String
  | watermark _ => "observer_watermark"
  | head _ => "observer_head"
  | ticks _ _ => "observer_ticks_total"
  | connectionFailures _ => "observer_connection_failures_total"
  | eventsForwarded _ _ => "observer_events_forwarded_total"
  | eventsSkipped _ _ => "observer_events_skipped_total"

/-- The labels of a metric, sorted by name. -/
def labels : Metric → List (String × String)
  | watermark c | head c | connectionFailures c => [("chain", c.text)]
  | ticks c outcome => [("chain", c.text), ("outcome", outcome)]
  | eventsForwarded c kind => [("chain", c.text), ("kind", kind.name)]
  | eventsSkipped c reason => [("chain", c.text), ("reason", reason)]

/-- The published text of a metric: its name, and its labels in braces. -/
def text (m : Metric) : String :=
  m.name ++ "\x7b" ++ ",".intercalate (m.labels.map fun l => l.1 ++ "=" ++ l.2) ++ "\x7d"

end Metric

/-- The values of the metrics recorded so far, in numbers of any size. Counters stand for counters of
64 bits, with which they agree as long as they are below `2 ^ 64`. -/
structure Metrics where
  values : List (Metric × Nat)
  deriving DecidableEq, Repr, Inhabited

namespace Metrics

/-- Nothing recorded. -/
def empty : Metrics := ⟨[]⟩

/-- The value of a metric, if it was ever recorded. -/
def get? (ms : Metrics) (m : Metric) : Option Nat := Assoc.find? m ms.values

/-- Counts one more. -/
def count (ms : Metrics) (m : Metric) : Metrics :=
  ⟨Assoc.put m ((ms.get? m).getD 0 + 1) ms.values⟩

/-- The whole number that a gauge shows for a height. -/
def gaugeValue (height : UInt64) : Nat := (Binary64.ofNat height.toNat).magnitude

/-- Sets a gauge to a height. -/
def gauge (ms : Metrics) (m : Metric) (height : UInt64) : Metrics :=
  ⟨Assoc.put m (gaugeValue height) ms.values⟩

end Metrics

end BridgeWatch
