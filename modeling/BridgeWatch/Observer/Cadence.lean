/-!
# The cadence of ticks

Ticks start on deadlines one period apart. A tick that outlasts its period delays the next one: the
late tick starts at once, and the one after it is due a whole period after the late start. A start
that is late by no more than `tolerance` milliseconds keeps to the old deadlines.

`startTimes` lists when ticks start that take given times.
-/

namespace BridgeWatch.Cadence

/-- Milliseconds by which a tick may be late without moving the deadlines behind it. -/
def tolerance : Nat := 5

/-- The deadline behind one that was noticed at a given time. -/
def nextDeadline (period deadline now : Nat) : Nat :=
  if deadline + tolerance < now then now + period else deadline + period

theorem lt_nextDeadline {period : Nat} (h : period ≠ 0) (deadline now : Nat) :
    deadline < nextDeadline period deadline now := by
  unfold nextDeadline
  split <;> omega

/-- When ticks start, of which the first is due at `deadline` and cannot start before `free`; the
list gives how long each of them takes. -/
def startTimesFrom (period deadline free : Nat) : List Nat → List Nat
  | [] => []
  | d :: ds =>
    let start := max deadline free
    start :: startTimesFrom period (nextDeadline period deadline start) (start + d) ds

/-- When ticks start that take the given times. -/
def startTimes (period : Nat) (durations : List Nat) : List Nat :=
  startTimesFrom period 0 0 durations

end BridgeWatch.Cadence
