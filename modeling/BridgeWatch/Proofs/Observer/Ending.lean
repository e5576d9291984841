import BridgeWatch.Observer.Tick

/-!
# How a tick ends

At its end a tick is noted in the status of its observer and counted among the metrics.

* `TickResult.failure?` is the error of a tick that failed or was held; both count as failures.
* `ObserverStatus.after` and `Shared.ended` are what the end of a tick makes of the status and of
  what observers share, by the result of the tick (`Observer.finishTick_eq_finished`).
-/

namespace BridgeWatch

namespace TickResult

/-- The window that a tick applied. -/
def applied? : TickResult → Option Window
  | .ok (.applied w _) => some w
  | _ => none

/-- How the entries of the window were dealt with that a tick applied. -/
def tally : TickResult → Tally
  | .ok (.applied _ tally) => tally
  | _ => .zero

/-- The error of a tick that failed or was held. -/
def failure? : TickResult → Option String
  | .error f => some f.message
  | .ok (.held _ _ error) => some error
  | .ok _ => none

/-- The tick failed because a range of blocks was too large. -/
def isRangeTooLarge : TickResult → Bool
  | .error (.rangeTooLarge ..) => true
  | _ => false

/-- The tick failed for want of a connection. -/
def isConnection : TickResult → Bool
  | .error (.connection ..) => true
  | _ => false

end TickResult

/-- The counters after a tick. -/
def ObserverCounters.after (c : ObserverCounters) (result : TickResult) : ObserverCounters where
  ticks := c.ticks + 1
  windowsApplied := c.windowsApplied + result.applied?.isSome.toNat
  eventsForwarded := c.eventsForwarded + result.tally.forwarded
  eventsIgnored := c.eventsIgnored + result.tally.ignored
  eventsSkipped := c.eventsSkipped + result.tally.skipped
  connectionFailures := c.connectionFailures + result.isConnection.toNat
  rangeRejections := c.rangeRejections + result.isRangeTooLarge.toNat

/-- The status after a tick that has read a head or none and left a window for the next scan. -/
def ObserverStatus.after (s : ObserverStatus) (head : Option UInt64) (window : UInt64)
    (result : TickResult) : ObserverStatus where
  state := if result.failure?.isSome then .faulted else .idle
  lastHead := head.or s.lastHead
  window := window
  consecutiveFailures :=
    if result.failure?.isSome then min maxFailures (s.consecutiveFailures + 1) else 0
  lastError := result.failure?
  hadSuccess := result.failure?.isNone || s.hadSuccess
  counters := s.counters.after result

namespace Shared

/-- What observers share after a tick has been counted. -/
def ended (s : Shared) (chain : ChainId) (result : TickResult) : Shared :=
  (if result.isConnection then s.count (.connectionFailures chain) else s).count
    (.ticks chain result.label)

@[simp]
theorem watermarks_ended (s : Shared) (chain : ChainId) (result : TickResult) :
    (s.ended chain result).watermarks = s.watermarks := by
  unfold ended
  split
  · rfl
  · rfl

end Shared

/-- **The end of a tick** is noted in the status and counted. -/
theorem Observer.finishTick_eq_finished (o : Observer) (result : TickResult) (v : View) :
    o.finishTick result v = .finished result
      ⟨⟨v.progress.window, v.progress.status.after none v.progress.window result⟩,
        v.shared.ended o.chain result⟩ := by
  cases result with
  | ok outcome => cases outcome <;> rfl
  | error f => cases f <;> rfl

end BridgeWatch
