import BridgeWatch.Shared
import Mathlib.Algebra.GroupWithZero.Nat
import Mathlib.Tactic.Common

/-!
# Totals of counters

A counter is kept for each of its labels; its total is the sum over all of them.

* `Metrics.total_count`, `Metrics.total_gauge`: counting adds one to the total of its own name, and
  gauges keep away from the totals of counters.
* `RelayCounts.total_count`: an accepted event adds one to the sum of the counts of all kinds.
* `Shared.totals`: the totals that observers share, with what each operation on what is shared does
  to them.
-/

namespace BridgeWatch

namespace Assoc

variable {α : Type}

/-- The sum of the values whose keys satisfy `p`. -/
def sumOf (p : α → Bool) (m : List (α × Nat)) : Nat := ((m.filter fun e => p e.1).map Prod.snd).sum

theorem sumOf_cons (p : α → Bool) (key : α) (value : Nat) (m : List (α × Nat)) :
    sumOf p ((key, value) :: m) = (if p key then value else 0) + sumOf p m := by
  cases h : p key with
  | true => simp [sumOf, h]
  | false => simp [sumOf, h]

/-- The sum changes by what the value of the key changes. -/
theorem sumOf_put [DecidableEq α] (p : α → Bool) (key : α) (value : Nat) (m : List (α × Nat)) :
    sumOf p (put key value m) + (if p key then (find? key m).getD 0 else 0) =
      sumOf p m + if p key then value else 0 := by
  induction m with
  | nil =>
    rw [put, sumOf_cons, find?, Option.getD_none, ite_self]
    omega
  | cons e m ih =>
    obtain ⟨k, v⟩ := e
    rw [put, find?, sumOf_cons]
    by_cases hk : k = key
    · subst hk
      rw [if_pos rfl, if_pos rfl, sumOf_cons, Option.getD_some]
      omega
    · rw [if_neg hk, if_neg hk, sumOf_cons]
      omega

end Assoc

namespace Metrics

/-- The sum of the values that are published under a name. -/
def total (ms : Metrics) (name : String) : Nat := Assoc.sumOf (fun m => m.name == name) ms.values

/-- Counting adds one to the sum over any metrics that the counter belongs to. -/
theorem sumOf_count (ms : Metrics) (m : Metric) (p : Metric → Bool) :
    Assoc.sumOf p (ms.count m).values = Assoc.sumOf p ms.values + if p m then 1 else 0 := by
  have hput := Assoc.sumOf_put p m ((ms.get? m).getD 0 + 1) ms.values
  have hget : Assoc.find? m ms.values = ms.get? m := rfl
  rw [hget] at hput
  show Assoc.sumOf p (Assoc.put m ((ms.get? m).getD 0 + 1) ms.values) = _
  split
  · rename_i hp
    rw [if_pos hp, if_pos hp] at hput
    omega
  · rename_i hp
    rw [if_neg hp, if_neg hp] at hput
    exact hput

theorem total_count (ms : Metrics) (m : Metric) (name : String) :
    (ms.count m).total name = ms.total name + if m.name = name then 1 else 0 := by
  unfold total
  rw [sumOf_count]
  simp only [beq_iff_eq]

/-- A gauge is not part of the total of another name. -/
theorem total_gauge {ms : Metrics} {m : Metric} {height : UInt64} {name : String}
    (h : m.name ≠ name) : (ms.gauge m height).total name = ms.total name := by
  have hput := Assoc.sumOf_put (fun m => m.name == name) m (gaugeValue height) ms.values
  simp only [beq_iff_eq, if_neg h] at hput
  exact hput

end Metrics

namespace RelayCounts

/-- How many events the ledger has accepted, of all kinds together. -/
def total (c : RelayCounts) : Nat := (c.entries.map Prod.snd).sum

theorem total_eq (c : RelayCounts) : c.total = (EventKind.all.map c.get).sum := by
  unfold total entries
  induction EventKind.all with
  | nil => rfl
  | cons kind kinds ih =>
    rw [List.filterMap_cons, List.map_cons, List.sum_cons, ← ih]
    by_cases h : c.get kind = 0
    · simp [h]
    · simp [h]

theorem total_count (c : RelayCounts) (kind : EventKind) : (c.count kind).total = c.total + 1 := by
  rw [total_eq, total_eq]
  cases kind <;> simp [EventKind.all, get_count] <;> omega

end RelayCounts

/-! ## What observers share -/

/-- Totals of what the observers of a supervisor have counted. -/
structure Totals where
  /-- Events that the ledger accepted, by the counts of their kinds. -/
  relayed : Nat
  /-- Events that the ledger accepted, by the published counter. -/
  forwarded : Nat
  /-- Log entries that could not be relayed. -/
  skipped : Nat
  ticks : Nat
  connectionFailures : Nat

/-- The totals of what observers share. -/
def Shared.totals (s : Shared) : Totals where
  relayed := s.relayed.total
  forwarded := s.metrics.total "observer_events_forwarded_total"
  skipped := s.metrics.total "observer_events_skipped_total"
  ticks := s.metrics.total "observer_ticks_total"
  connectionFailures := s.metrics.total "observer_connection_failures_total"

namespace Shared

variable (s : Shared) (chain : ChainId)

/-- Gauges and watermarks are not in the totals. -/
theorem totals_gauge {m : Metric} (hm : m.name = "observer_watermark" ∨ m.name = "observer_head")
    (w : WatermarkStore) (height : UInt64) :
    { s with watermarks := w, metrics := s.metrics.gauge m height }.totals = s.totals := by
  have hne (name : String) (hw : "observer_watermark" ≠ name) (hh : "observer_head" ≠ name) :
      m.name ≠ name := by
    rcases hm with hm | hm
    · rwa [hm]
    · rwa [hm]
  unfold totals
  rw [Metrics.total_gauge (hne _ (by decide) (by decide)),
    Metrics.total_gauge (hne _ (by decide) (by decide)),
    Metrics.total_gauge (hne _ (by decide) (by decide)),
    Metrics.total_gauge (hne _ (by decide) (by decide))]

@[simp]
theorem totals_setWatermark (height : UInt64) :
    (s.setWatermark chain height).totals = s.totals :=
  s.totals_gauge (.inl rfl) _ height

@[simp]
theorem totals_recordHead (head : UInt64) : (s.recordHead chain head).totals = s.totals :=
  s.totals_gauge (.inr rfl) _ head

theorem totals_of_advance {s s' : Shared} {chain : ChainId} {height : UInt64}
    (h : s.advance chain height = .ok s') : s'.totals = s.totals := by
  unfold advance at h
  split at h
  · cases h
  · cases h
    exact s.totals_gauge (.inl rfl) _ height

@[simp]
theorem totals_recordRelayed (event : Event) : (s.recordRelayed event).totals =
    { s.totals with
      relayed := s.totals.relayed + 1
      forwarded := s.totals.forwarded + 1 } := by
  simp [totals, recordRelayed, RelayCounts.total_count, Metrics.total_count, Metric.name]

@[simp]
theorem totals_count_eventsSkipped (reason : String) :
    (s.count (.eventsSkipped chain reason)).totals =
      { s.totals with skipped := s.totals.skipped + 1 } := by
  simp [totals, count, Metrics.total_count, Metric.name]

@[simp]
theorem totals_count_ticks (outcome : String) : (s.count (.ticks chain outcome)).totals =
    { s.totals with ticks := s.totals.ticks + 1 } := by
  simp [totals, count, Metrics.total_count, Metric.name]

@[simp]
theorem totals_count_connectionFailures : (s.count (.connectionFailures chain)).totals =
    { s.totals with connectionFailures := s.totals.connectionFailures + 1 } := by
  simp [totals, count, Metrics.total_count, Metric.name]

end Shared

end BridgeWatch
