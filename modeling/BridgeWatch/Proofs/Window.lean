import BridgeWatch.Window
import BridgeWatch.Log.Entry
import Mathlib.Data.List.Basic

/-!
# Windows past a watermark

* `Window.IsNext` is the window past a watermark in natural numbers, and the one that is computed in
  words is that window (`Window.isNext_of_next?`).
* `Window.Follows` says that a window starts right behind a watermark and is not empty.
* `follows_next?`: the windows that are scanned do, and they end at the head at the latest.
* `Tiles first windows last`: the windows are consecutive, the first one follows `first`, and the
  last one ends at `last`. Such windows partition the blocks behind `first` up to `last`
  (`Tiles.mem_iff`), and so they partition the logs of these blocks (`Tiles.flatMap_logsIn_perm`).
-/

namespace BridgeWatch

/-! ## Words as numbers -/

theorem toNat_max (a b : UInt64) : (max a b).toNat = max a.toNat b.toNat := by
  show (if a ≤ b then b else a).toNat = _
  split <;>
    · rename_i h
      rw [UInt64.le_iff_toNat_le] at h
      omega

theorem toNat_min (a b : UInt64) : (min a b).toNat = min a.toNat b.toNat := by
  show (if a ≤ b then a else b).toNat = _
  split <;>
    · rename_i h
      rw [UInt64.le_iff_toNat_le] at h
      omega

/-- A sum is capped at the greatest word. -/
theorem toNat_cappedAdd (a b : UInt64) :
    (cappedAdd a b).toNat = min (a.toNat + b.toNat) (UInt64.size - 1) := by
  unfold cappedAdd
  split
  · rename_i h
    rw [UInt64.toNat_add, Nat.mod_eq_of_lt h]
    omega
  · rename_i h
    have hcap : (UInt64.ofNat (UInt64.size - 1)).toNat = UInt64.size - 1 := rfl
    omega

namespace Window

/-- A block lies in a window. -/
def Contains (w : Window) (height : UInt64) : Prop := w.first ≤ height ∧ height ≤ w.last

instance (w : Window) (height : UInt64) : Decidable (w.Contains height) :=
  inferInstanceAs (Decidable (_ ∧ _))

/-- A window starts right behind a watermark and holds at least one block. -/
structure Follows (w : Window) (watermark : UInt64) : Prop where
  first_eq : w.first.toNat = watermark.toNat + 1
  first_le : w.first ≤ w.last

theorem Follows.lt_last {w : Window} {watermark : UInt64} (h : w.Follows watermark) :
    watermark < w.last := by
  have hf := h.first_eq
  have hl := UInt64.le_iff_toNat_le.1 h.first_le
  rw [UInt64.lt_iff_toNat_lt]
  omega

/-- The blocks of a window that follows a watermark are those behind the watermark up to its
end. -/
theorem Follows.contains_iff {w : Window} {watermark : UInt64} (h : w.Follows watermark)
    (height : UInt64) : w.Contains height ↔ watermark < height ∧ height ≤ w.last := by
  have hf := h.first_eq
  simp only [Contains, UInt64.le_iff_toNat_le, UInt64.lt_iff_toNat_lt]
  omega

/-- A window that follows a watermark has the blocks behind it. -/
theorem Follows.toNat_size {w : Window} {watermark : UInt64} (h : w.Follows watermark) :
    w.size.toNat = w.last.toNat - watermark.toNat := by
  have hf := h.first_eq
  have hl := UInt64.le_iff_toNat_le.1 h.first_le
  have hs := w.last.toNat_lt
  rw [size, UInt64.toNat_add, UInt64.toNat_sub_of_le _ _ h.first_le,
    show (1 : UInt64).toNat = 1 from rfl, Nat.mod_eq_of_lt (by omega)]
  omega

/-! ## The window past a watermark -/

/-- The window past a watermark, in numbers that have no greatest one. -/
structure IsNext (w : Window) (watermark head limit : UInt64) : Prop where
  lt_head : watermark < head
  first_eq : w.first.toNat = watermark.toNat + 1
  last_eq : w.last.toNat = min (watermark.toNat + max 1 limit.toNat) head.toNat

/-- There is no window past a watermark exactly when the head is not past it. -/
theorem next?_eq_none_iff (watermark head limit : UInt64) :
    next? watermark head limit = none ↔ head ≤ watermark := by
  unfold next?
  split
  · rename_i h
    simpa using h
  · rename_i h
    simpa using h

/-- **The window that is computed in words is the one in natural numbers.** The block behind the
watermark is a word since the head is one, and the end cannot be past the head, so capping the sum
does not show. -/
theorem isNext_of_next? {watermark head limit : UInt64} {w : Window}
    (h : next? watermark head limit = some w) : w.IsNext watermark head limit := by
  unfold next? at h
  split at h
  · cases h
  · rename_i hle
    have hlt : watermark.toNat < head.toNat :=
      UInt64.lt_iff_toNat_lt.1 (UInt64.not_le.1 hle)
    have hhead := head.toNat_lt
    have hone : (1 : UInt64).toNat = 1 := rfl
    have hsize : UInt64.size = 2 ^ 64 := rfl
    cases h
    refine ⟨UInt64.not_le.1 hle, ?_, ?_⟩
    · rw [UInt64.toNat_add, hone, Nat.mod_eq_of_lt (by omega)]
    · rw [toNat_min, toNat_cappedAdd, toNat_max, hone]
      omega

theorem IsNext.follows {watermark head limit : UInt64} {w : Window}
    (h : w.IsNext watermark head limit) : w.Follows watermark := by
  have hlt := UInt64.lt_iff_toNat_lt.1 h.lt_head
  have hf := h.first_eq
  have hl := h.last_eq
  exact ⟨hf, UInt64.le_iff_toNat_le.2 (by omega)⟩

theorem IsNext.last_le {watermark head limit : UInt64} {w : Window}
    (h : w.IsNext watermark head limit) : w.last ≤ head := by
  have hl := h.last_eq
  exact UInt64.le_iff_toNat_le.2 (by omega)

/-- A window past a watermark has no more blocks than the limit, of which zero counts as one. -/
theorem IsNext.size_le {watermark head limit : UInt64} {w : Window}
    (h : w.IsNext watermark head limit) : w.size.toNat ≤ max 1 limit.toNat := by
  have hl := h.last_eq
  rw [h.follows.toNat_size]
  omega

/-- The window past a watermark follows it and ends at the head at the latest. -/
theorem follows_next? {watermark head limit : UInt64} {w : Window}
    (h : next? watermark head limit = some w) : w.Follows watermark ∧ w.last ≤ head :=
  ⟨(isNext_of_next? h).follows, (isNext_of_next? h).last_le⟩

/-- There is a window past a watermark exactly when the head is past it. -/
theorem next?_isSome_iff (watermark head limit : UInt64) :
    (next? watermark head limit).isSome ↔ watermark < head := by
  rw [Option.isSome_iff_ne_none, ne_eq, next?_eq_none_iff, UInt64.not_le]

end Window

/-! ## Consecutive windows -/

/-- Windows one behind the other, of which the first follows `first` and the last ends at
`last`. -/
def Tiles (first : UInt64) : List Window → UInt64 → Prop
  | [], last => last = first
  | w :: ws, last => w.Follows first ∧ Tiles w.last ws last

namespace Tiles

theorem le {first last : UInt64} {ws : List Window} (h : Tiles first ws last) :
    first ≤ last := by
  induction ws generalizing first with
  | nil => exact h ▸ UInt64.le_refl _
  | cons w ws ih => exact UInt64.le_trans (UInt64.le_of_lt h.1.lt_last) (ih h.2)

/-- One more window behind the last. -/
theorem concat {first last : UInt64} {ws : List Window} (h : Tiles first ws last) {w : Window}
    (hw : w.Follows last) : Tiles first (ws ++ [w]) w.last := by
  induction ws generalizing first with
  | nil =>
    obtain rfl : last = first := h
    exact ⟨hw, rfl⟩
  | cons v ws ih => exact ⟨h.1, ih h.2⟩

/-- Consecutive windows hold the blocks behind the first watermark up to the last. -/
theorem mem_iff {first last : UInt64} {ws : List Window} (h : Tiles first ws last)
    (height : UInt64) :
    (first < height ∧ height ≤ last) ↔ ∃ w ∈ ws, w.Contains height := by
  induction ws generalizing first with
  | nil =>
    obtain rfl : last = first := h
    simp only [List.not_mem_nil, false_and, exists_false, iff_false, not_and]
    exact fun hlt => UInt64.not_le.2 hlt
  | cons w ws ih =>
    have hle := h.2.le
    have hlt := h.1.lt_last
    simp only [List.mem_cons, exists_eq_or_imp, ← ih h.2, h.1.contains_iff]
    simp only [UInt64.le_iff_toNat_le, UInt64.lt_iff_toNat_lt] at *
    omega

/-- No block lies in two of the windows. -/
theorem countP_contains_le_one {first last : UInt64} {ws : List Window} (h : Tiles first ws last)
    (height : UInt64) : ws.countP (fun w => decide (w.Contains height)) ≤ 1 := by
  induction ws generalizing first with
  | nil => exact Nat.zero_le _
  | cons w ws ih =>
    rw [List.countP_cons]
    split
    · rename_i hc
      have hc := (h.1.contains_iff height).1 (of_decide_eq_true hc)
      have : ws.countP (fun w => decide (w.Contains height)) = 0 := by
        rw [List.countP_eq_zero]
        intro v hv hd
        have := (h.2.mem_iff height).2 ⟨v, hv, of_decide_eq_true hd⟩
        exact UInt64.not_le.2 this.1 hc.2
      omega
    · exact ih h.2

/-- Each block behind the first watermark up to the last lies in one of the windows, and no other
block does. -/
theorem countP_contains {first last : UInt64} {ws : List Window} (h : Tiles first ws last)
    (height : UInt64) : ws.countP (fun w => decide (w.Contains height)) =
      if first < height ∧ height ≤ last then 1 else 0 := by
  have hone := h.countP_contains_le_one height
  split
  · rename_i hb
    obtain ⟨w, hw, hc⟩ := (h.mem_iff height).1 hb
    have hpos : 0 < ws.countP (fun w => decide (w.Contains height)) :=
      List.countP_pos_iff.2 ⟨w, hw, decide_eq_true hc⟩
    omega
  · rename_i hb
    rw [List.countP_eq_zero]
    intro w hw hc
    exact hb ((h.mem_iff height).2 ⟨w, hw, of_decide_eq_true hc⟩)

end Tiles

/-! ## The logs of windows -/

/-- The logs of a contract in a window. -/
def logsIn (logs : List LogEntry) (contract : Address) (w : Window) : List LogEntry :=
  logs.filter fun e => decide (e.contract = contract ∧ w.Contains e.height)

/-- The logs of a contract behind a block, up to another. -/
def logsBetween (logs : List LogEntry) (contract : Address) (first last : UInt64) :
    List LogEntry :=
  logs.filter fun e => decide (e.contract = contract ∧ first < e.height ∧ e.height ≤ last)

@[simp]
theorem mem_logsIn {logs : List LogEntry} {contract : Address} {w : Window} {e : LogEntry} :
    e ∈ logsIn logs contract w ↔ e ∈ logs ∧ e.contract = contract ∧ w.Contains e.height := by
  simp [logsIn]

@[simp]
theorem mem_logsBetween {logs : List LogEntry} {contract : Address} {first last : UInt64}
    {e : LogEntry} : e ∈ logsBetween logs contract first last ↔
      e ∈ logs ∧ e.contract = contract ∧ first < e.height ∧ e.height ≤ last := by
  simp [logsBetween]

/-- No logs lie behind a block up to itself. -/
theorem logsBetween_self (logs : List LogEntry) (contract : Address) (first : UInt64) :
    logsBetween logs contract first first = [] := by
  refine List.filter_eq_nil_iff.2 fun e _ he => ?_
  obtain ⟨-, hlt, hle⟩ := of_decide_eq_true he
  exact UInt64.not_le.2 hlt hle

/-- The logs up to a block are among those up to a later one. -/
theorem logsBetween_sublist (logs : List LogEntry) (contract : Address) (first : UInt64)
    {last last' : UInt64} (h : last ≤ last') :
    (logsBetween logs contract first last).Sublist (logsBetween logs contract first last') := by
  refine List.monotone_filter_right _ fun e he => ?_
  obtain ⟨hc, hlt, hle⟩ := of_decide_eq_true he
  exact decide_eq_true ⟨hc, hlt, UInt64.le_trans hle h⟩

/-- The logs up to the end of a window are some up to a block that is not before the window, and
some of the window. -/
theorem exists_logsBetween_split (logs : List LogEntry) (contract : Address) (first : UInt64)
    {watermark reached : UInt64} {w : Window} (hw : w.Follows watermark)
    (hr : watermark ≤ reached) :
    ∃ old new : List LogEntry, (old ++ new).Perm (logsBetween logs contract first w.last) ∧
      old.Sublist (logsBetween logs contract first reached) ∧
      new.Sublist (logsIn logs contract w) := by
  refine ⟨_, _, List.filter_append_perm (fun e => decide (e.height ≤ reached)) _, ?_, ?_⟩
  · rw [logsBetween, List.filter_filter]
    refine List.monotone_filter_right _ fun e he => ?_
    simp only [Bool.and_eq_true, decide_eq_true_eq] at he
    obtain ⟨hle, hc, hlt, -⟩ := he
    exact decide_eq_true ⟨hc, hlt, hle⟩
  · rw [logsBetween, List.filter_filter]
    refine List.monotone_filter_right _ fun e he => ?_
    simp only [Bool.and_eq_true, Bool.not_eq_true', decide_eq_true_eq, decide_eq_false_iff_not]
      at he
    obtain ⟨hgt, hc, -, hle⟩ := he
    have hlt : watermark < e.height := UInt64.lt_of_le_of_lt hr (UInt64.not_le.1 hgt)
    exact decide_eq_true ⟨hc, (hw.contains_iff _).2 ⟨hlt, hle⟩⟩

/-- The logs behind a watermark split at the end of a window that follows it. -/
theorem logsBetween_perm_of_follows (logs : List LogEntry) (contract : Address)
    {first last : UInt64} {w : Window} (hw : w.Follows first) (hl : w.last ≤ last) :
    (logsIn logs contract w ++ logsBetween logs contract w.last last).Perm
      (logsBetween logs contract first last) := by
  refine .trans (.of_eq ?_) (List.filter_append_perm (fun e => decide (e.height ≤ w.last)) _)
  simp only [logsIn, logsBetween, List.filter_filter]
  congr 1 <;> refine List.filter_congr fun e _ => ?_
  · simp only [hw.contains_iff, ← Bool.decide_and, decide_eq_decide]
    exact ⟨fun ⟨hc, hf, he⟩ => ⟨he, hc, hf, UInt64.le_trans he hl⟩,
      fun ⟨he, hc, hf, _⟩ => ⟨hc, hf, he⟩⟩
  · simp only [← decide_not, ← Bool.decide_and, decide_eq_decide, UInt64.not_le]
    exact ⟨fun ⟨hc, hf, he⟩ => ⟨hf, hc, UInt64.lt_trans hw.lt_last hf, he⟩,
      fun ⟨hf, hc, _, he⟩ => ⟨hc, hf, he⟩⟩

/-- **Consecutive windows partition the logs** behind the first watermark up to the last. -/
theorem Tiles.flatMap_logsIn_perm {first last : UInt64} {ws : List Window}
    (h : Tiles first ws last) (logs : List LogEntry) (contract : Address) :
    (ws.flatMap (logsIn logs contract)).Perm (logsBetween logs contract first last) := by
  induction ws generalizing first with
  | nil =>
    obtain rfl : last = first := h
    exact .of_eq (logsBetween_self ..).symm
  | cons w ws ih =>
    rw [List.flatMap_cons]
    exact ((ih h.2).append_left _).trans (logsBetween_perm_of_follows logs contract h.1 h.2.le)

end BridgeWatch
