import BridgeWatch.Json.Basic
import BridgeWatch.Observer.Status

/-!
# Outcomes and counters in JSON

How the end of a tick and an observer's counters are reported. The member `outcome` tells the ends
of ticks apart.
-/

namespace BridgeWatch

/-- A window as a value. -/
def Window.toJson (w : Window) : Json := .obj [("from", .word w.first), ("to", .word w.last)]

/-- The members of an outcome besides its label. -/
def TickOutcome.members : TickOutcome → List (String × Json)
  | .initialized watermark => [("watermark", .word watermark)]
  | .noNewBlocks head => [("head", .word head)]
  | .applied window tally =>
    [("window", window.toJson), ("forwarded", .nat tally.forwarded),
      ("ignored", .nat tally.ignored), ("skipped", .nat tally.skipped)]
  | .held window forwarded error =>
    [("window", window.toJson), ("forwarded", .nat forwarded), ("error", .str error)]

/-- An outcome as a value. -/
def TickOutcome.toJson (o : TickOutcome) : Json := .obj (("outcome", .str o.label) :: o.members)

/-- Counters as a value. -/
def ObserverCounters.toJson (c : ObserverCounters) : Json :=
  .obj [("ticks", .nat c.ticks), ("windows_applied", .nat c.windowsApplied),
    ("events_forwarded", .nat c.eventsForwarded), ("events_ignored", .nat c.eventsIgnored),
    ("events_skipped", .nat c.eventsSkipped), ("connection_failures", .nat c.connectionFailures),
    ("range_rejections", .nat c.rangeRejections)]

end BridgeWatch
