import BridgeWatch.Observer.Cadence
import Mathlib.Data.List.Chain

/-!
# Timetables

When ticks were due, started and ended (`TickTime`), one after the other.

* `TickTime.Follows`: a tick is due on the deadline behind that of the tick before it, and starts as
  soon as it is due and the one before has ended.
* `IsTimetable`: the first tick starts at once, and each other one follows the one before.
* `IsTimetable.isPaced`: ticks never overlap and never burst, whatever time they take (`IsPaced`).
-/

namespace BridgeWatch

/-- When a tick was due, when it started, and when it ended, if it did. -/
structure TickTime where
  due : Nat
  start : Nat
  stop? : Option Nat
  deriving DecidableEq, Repr

namespace TickTime

variable {period : Nat} {x y z : TickTime}

/-- How long a tick took. -/
def duration (x : TickTime) : Nat := x.stop?.getD x.start - x.start

/-- A tick is the next one behind another. -/
structure Follows (period : Nat) (x y : TickTime) : Prop where
  due : y.due = Cadence.nextDeadline period x.due x.start
  start : ∃ stop, x.stop? = some stop ∧ x.start ≤ stop ∧ y.start = max y.due stop

/-! ## Two and three ticks in a row -/

/-- A tick starts when the one before it has ended. -/
theorem Follows.duration_le (h : Follows period x y) : x.start + x.duration ≤ y.start := by
  obtain ⟨stop, hstop, hle, hstart⟩ := h.start
  rw [duration, hstop, Option.getD_some, hstart]
  omega

theorem Follows.stop?_eq (h : Follows period x y) : x.stop? = some (x.start + x.duration) := by
  obtain ⟨stop, hstop, hle, -⟩ := h.start
  rw [duration, hstop, Option.getD_some, Option.some.injEq]
  omega

theorem Follows.start_eq (h : Follows period x y) :
    y.start = max y.due (x.start + x.duration) := by
  obtain ⟨stop, hstop, hle, hstart⟩ := h.start
  rw [hstart, duration, hstop, Option.getD_some]
  omega

/-- Two ticks in a row start a period apart, but for the tolerance: a tick that was late by no more
than that leaves the deadline behind its own where it was. -/
theorem Follows.period_le (h : Follows period x y) :
    x.start + period ≤ y.start + Cadence.tolerance := by
  have hstart := h.start_eq
  rw [h.due, Cadence.nextDeadline] at hstart
  split at hstart <;> omega

/-- Behind a tick that starts on its deadline and takes no more than a period, the next one starts
on its own deadline. -/
theorem Follows.start_eq_of_le (h : Follows period x y) (hx : x.start = x.due)
    (hd : x.duration ≤ period) : y.due = x.start + period ∧ y.start = x.start + period := by
  have hdue : y.due = x.start + period := by
    rw [h.due, Cadence.nextDeadline, hx, if_neg (by omega)]
  rw [h.start_eq, hdue]
  omega

/-- A tick that starts late moves the deadline behind its own. -/
theorem Follows.period_le_of_late (h : Follows period x y)
    (late : x.due + Cadence.tolerance < x.start) : x.start + period ≤ y.start := by
  have hdue := h.due
  rw [Cadence.nextDeadline, if_pos late] at hdue
  rw [h.start_eq, hdue]
  omega

/-- Behind a tick that starts on its deadline, the next one starts late if the tick takes more than
a period and the tolerance. -/
theorem Follows.late (h : Follows period x y) (hx : x.start = x.due)
    (hd : period + Cadence.tolerance < x.duration) : y.due + Cadence.tolerance < y.start := by
  have hdue : y.due = x.start + period := by
    rw [h.due, Cadence.nextDeadline, hx, if_neg (by omega)]
  rw [h.start_eq, hdue]
  omega

end TickTime

open TickTime (Follows)

variable {period : Nat} {ticks : List TickTime}

/-! ## Timetables -/

/-- Ticks of which the first starts at once and each other one follows the one before. -/
structure IsTimetable (period : Nat) (ticks : List TickTime) : Prop where
  first : ∀ x ∈ ticks.head?, x.due = 0 ∧ x.start = 0
  chain : ticks.IsChain (Follows period)

theorem IsTimetable.follows (h : IsTimetable period ticks) {k : Nat} {x y : TickTime}
    (hx : ticks[k]? = some x) (hy : ticks[k + 1]? = some y) : Follows period x y := by
  obtain ⟨hlt, rfl⟩ := List.getElem?_eq_some_iff.1 hy
  obtain ⟨_, rfl⟩ := List.getElem?_eq_some_iff.1 hx
  exact List.isChain_iff_getElem.1 h.chain k hlt

/-- Ticks that take no more than a period start on their deadlines, which are whole periods. -/
theorem IsTimetable.start_eq_mul (h : IsTimetable period ticks)
    (short : ∀ x ∈ ticks, x.duration ≤ period) {k : Nat} {x : TickTime}
    (hx : ticks[k]? = some x) : x.due = k * period ∧ x.start = k * period := by
  induction k generalizing x with
  | zero =>
    rw [Nat.zero_mul]
    exact h.first x (by rw [List.head?_eq_getElem?, hx]; rfl)
  | succ k ih =>
    obtain ⟨hlt, -⟩ := List.getElem?_eq_some_iff.1 hx
    have hw : ticks[k]? = some ticks[k] := List.getElem?_eq_getElem (by omega)
    obtain ⟨hdue, hstart⟩ := ih hw
    have hnext := (h.follows hw hx).start_eq_of_le (hstart.trans hdue.symm)
      (short _ (List.mem_of_getElem? hw))
    rw [hstart] at hnext
    rwa [Nat.succ_mul]

/-- The starts of ticks that follow each other are determined by how long they take. -/
theorem map_start_eq {x : TickTime} {xs : List TickTime} {free : Nat}
    (hx : x.start = max x.due free) (h : (x :: xs).IsChain (Follows period)) :
    (x :: xs).map TickTime.start =
      Cadence.startTimesFrom period x.due free ((x :: xs).map TickTime.duration) := by
  induction xs generalizing x free with
  | nil => simp only [List.map_cons, List.map_nil, Cadence.startTimesFrom, hx]
  | cons y ys ih =>
    rw [List.isChain_cons_cons] at h
    have hrest := ih h.1.start_eq h.2
    rw [List.map_cons, hrest, h.1.due, hx]
    rfl

/-! ## Pace -/

/-- Ticks are serialized and never burst. -/
structure IsPaced (period : Nat) (ticks : List TickTime) : Prop where
  /-- The first tick starts at once. -/
  first : ∀ x, ticks[0]? = some x → x.start = 0
  /-- A tick starts when the one before it has ended. -/
  serialized : ∀ (k : Nat) x y, ticks[k]? = some x → ticks[k + 1]? = some y →
    x.stop? = some (x.start + x.duration) ∧ x.start + x.duration ≤ y.start
  /-- Two ticks in a row start a period apart, but for the tolerance. -/
  spaced : ∀ (k : Nat) x y, ticks[k]? = some x → ticks[k + 1]? = some y →
    x.start + period ≤ y.start + Cadence.tolerance
  /-- If no tick takes longer than a period, ticks start at whole periods. -/
  punctual : (∀ x ∈ ticks, x.duration ≤ period) →
    ∀ (k : Nat) x, ticks[k]? = some x → x.start = k * period
  /-- If a tick that started on its deadline takes longer than a period and the tolerance, the late
  tick behind it is followed a whole period later at the earliest. -/
  rebased : ∀ (k : Nat) x y z, ticks[k]? = some x → ticks[k + 1]? = some y →
    ticks[k + 2]? = some z → x.start = x.due → period + Cadence.tolerance < x.duration →
      y.start + period ≤ z.start
  /-- Ticks start when the times that they take say. -/
  determined : ticks.map TickTime.start =
    Cadence.startTimes period (ticks.map TickTime.duration)

/-- **The ticks of a timetable are serialized and never burst.** -/
theorem IsTimetable.isPaced (h : IsTimetable period ticks) : IsPaced period ticks where
  first x hx := (h.first x (by rw [List.head?_eq_getElem?, hx]; rfl)).2
  serialized _ _ _ hx hy := ⟨(h.follows hx hy).stop?_eq, (h.follows hx hy).duration_le⟩
  spaced _ _ _ hx hy := (h.follows hx hy).period_le
  punctual short _ _ hx := (h.start_eq_mul short hx).2
  rebased _ _ _ _ hx hy hz onTime slow :=
    (h.follows hy hz).period_le_of_late ((h.follows hx hy).late onTime slow)
  determined := by
    cases ticks with
    | nil => rfl
    | cons x xs =>
      obtain ⟨hdue, hstart⟩ := h.first x rfl
      have hat : x.start = max x.due 0 := by rw [hdue, hstart]; rfl
      have := map_start_eq hat h.chain
      rwa [hdue] at this

/-! ## Timetables that grow -/

theorem isTimetable_nil (period : Nat) : IsTimetable period [] := ⟨nofun, .nil⟩

/-- The first tick. -/
theorem isTimetable_singleton (period : Nat) (stop? : Option Nat) :
    IsTimetable period [⟨0, 0, stop?⟩] := by
  refine ⟨?_, .singleton _⟩
  rintro x ⟨⟩
  exact ⟨rfl, rfl⟩

/-- One more tick. -/
theorem IsTimetable.concat {x y : TickTime} (h : IsTimetable period (ticks ++ [x]))
    (hy : Follows period x y) : IsTimetable period (ticks ++ [x] ++ [y]) := by
  refine ⟨?_, ?_⟩
  · rw [List.head?_append_of_ne_nil _ (by simp)]
    exact h.first
  · rw [List.append_assoc, List.singleton_append, List.isChain_append_cons_cons]
    exact ⟨h.chain, hy, .singleton y⟩

/-- The last tick may end at any time: no tick follows it yet. -/
theorem IsTimetable.stop {x : TickTime} (h : IsTimetable period (ticks ++ [x]))
    (stop? : Option Nat) : IsTimetable period (ticks ++ [{ x with stop? := stop? }]) := by
  cases ticks using List.reverseRecOn with
  | nil =>
    refine ⟨?_, .singleton _⟩
    rintro _ ⟨⟩
    exact h.first x rfl
  | append_singleton ticks w =>
    refine ⟨?_, ?_⟩
    · rw [List.head?_append_of_ne_nil _ (by simp)]
      have := h.first
      rwa [List.head?_append_of_ne_nil _ (by simp)] at this
    · have hchain := h.chain
      rw [List.append_assoc, List.singleton_append, List.isChain_append_cons_cons] at hchain ⊢
      exact ⟨hchain.1, ⟨hchain.2.1.due, hchain.2.1.start⟩, .singleton _⟩

end BridgeWatch
