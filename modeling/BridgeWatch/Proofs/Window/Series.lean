import BridgeWatch.Proofs.Window
import Mathlib.Algebra.Order.Floor.Div

/-!
# The windows up to a head

`Window.series` is what is scanned when each window past a watermark moves the watermark to its own
end, until the head is reached.

* `Window.tiles_series`: these windows are consecutive, and the last one ends at the head.
* `Window.length_series`: there are as many of them as the distance to the head, divided by the
  limit of blocks and rounded up.
* `Window.series_exact`: this, together with the window past one watermark in natural numbers, for
  all words.
-/

namespace BridgeWatch

namespace Tiles

variable {first last : UInt64} {ws : List Window}

theorem first_le_last (h : Tiles first ws last) : ∀ w ∈ ws, w.first ≤ w.last := by
  induction ws generalizing first with
  | nil => simp
  | cons w ws ih => exact List.forall_mem_cons.2 ⟨h.1.first_le, ih h.2⟩

/-- Of two consecutive windows, the second starts past the end of the first. -/
theorem pairwise_last_lt_first (h : Tiles first ws last) :
    ws.Pairwise fun v w => v.last < w.first := by
  induction ws generalizing first with
  | nil => exact .nil
  | cons w ws ih =>
    refine List.pairwise_cons.2 ⟨?_, ih h.2⟩
    intro v hv
    have hcontains : v.Contains v.first := ⟨UInt64.le_refl _, h.2.first_le_last v hv⟩
    exact ((h.2.mem_iff v.first).2 ⟨v, hv, hcontains⟩).1

end Tiles

/-- A distance that is not zero takes one stretch more than what is left of it behind one. -/
theorem ceilDiv_eq_sub_ceilDiv_add_one {n k : ℕ} (hn : 0 < n) (hk : 0 < k) :
    n ⌈/⌉ k = (n - k) ⌈/⌉ k + 1 := by
  simp only [Nat.ceilDiv_eq_add_pred_div]
  by_cases hle : k ≤ n
  · have hsplit : n + k - 1 = n - k + k - 1 + k := by omega
    rw [hsplit, Nat.add_div_right _ hk]
  · have hshort : n + k - 1 = n - 1 + k := by omega
    have hnone : n - k + k - 1 = k - 1 := by omega
    rw [hshort, hnone, Nat.add_div_right _ hk, Nat.div_eq_of_lt (by omega),
      Nat.div_eq_of_lt (by omega)]

namespace Window

/-- The windows that follow one another from a watermark to the head. -/
def series (watermark head limit : UInt64) : List Window :=
  match _h : next? watermark head limit with
  | none => []
  | some w => w :: series w.last head limit
termination_by head.toNat - watermark.toNat
decreasing_by
  have hw := isNext_of_next? _h
  have hlt := UInt64.lt_iff_toNat_lt.1 hw.follows.lt_last
  have hle := UInt64.le_iff_toNat_le.1 hw.last_le
  omega

/-- No window leads to a head that the watermark has reached. -/
theorem series_eq_nil {watermark head : UInt64} (limit : UInt64) (h : head ≤ watermark) :
    series watermark head limit = [] := by
  rw [series, (next?_eq_none_iff ..).2 h]

/-- The windows up to a head are consecutive, and the last one ends at the head. -/
theorem tiles_series {watermark head : UInt64} (limit : UInt64) (h : watermark ≤ head) :
    Tiles watermark (series watermark head limit) head := by
  induction watermark using series.induct head limit with
  | case1 watermark hnone =>
    rw [series, hnone]
    exact UInt64.le_antisymm ((next?_eq_none_iff ..).1 hnone) h
  | case2 watermark w hw ih =>
    have hnext := isNext_of_next? hw
    rw [series, hw]
    exact ⟨hnext.follows, ih hnext.last_le⟩

/-- The windows up to a head are as many as the distance, divided by the limit and rounded up. -/
theorem length_series (watermark head limit : UInt64) :
    (series watermark head limit).length =
      (head.toNat - watermark.toNat) ⌈/⌉ max 1 limit.toNat := by
  induction watermark using series.induct head limit with
  | case1 watermark hnone =>
    have hle := (next?_eq_none_iff ..).1 hnone
    rw [series_eq_nil limit hle, Nat.sub_eq_zero_of_le (UInt64.le_iff_toNat_le.1 hle), zero_ceilDiv]
    rfl
  | case2 watermark w hw ih =>
    have hnext := isNext_of_next? hw
    have hlt := UInt64.lt_iff_toNat_lt.1 hnext.lt_head
    have hlast := hnext.last_eq
    have hrest : head.toNat - w.last.toNat =
        head.toNat - watermark.toNat - max 1 limit.toNat := by omega
    have hceil := ceilDiv_eq_sub_ceilDiv_add_one (Nat.sub_pos_of_lt hlt)
      (show 0 < max 1 limit.toNat by omega)
    rw [series, hw, List.length_cons, ih, hrest, hceil]

/-- A block is in one of the windows up to a head exactly when it is behind the watermark and not
past the head. -/
theorem exists_mem_series_iff (watermark head limit height : UInt64) :
    (∃ w ∈ series watermark head limit, w.Contains height) ↔
      watermark < height ∧ height ≤ head := by
  by_cases h : watermark ≤ head
  · exact ((tiles_series limit h).mem_iff height).symm
  · rw [series_eq_nil limit (UInt64.le_of_lt (UInt64.not_le.1 h))]
    simp only [List.not_mem_nil, false_and, exists_false, false_iff, not_and]
    intro hlt hle
    exact h (UInt64.le_of_lt (UInt64.lt_of_lt_of_le hlt hle))

/-- **Windows are exact and tile what is behind the head**, for all words. There is no window past a
watermark exactly when the head is not past it. Otherwise the window is the one in natural numbers,
and so is its size, which lies between one and the limit. The windows that lead from a watermark to
the head are as many as the distance divided by the limit and rounded up; they are consecutive and
apart from each other, and they hold the blocks behind the watermark up to the head, and no
others. -/
theorem series_exact (watermark head limit : UInt64) :
    (next? watermark head limit = none ↔ head ≤ watermark) ∧
    (∀ w, next? watermark head limit = some w → w.IsNext watermark head limit ∧
      w.first ≤ w.last ∧ w.size.toNat = w.last.toNat - w.first.toNat + 1 ∧
      1 ≤ w.size.toNat ∧ w.size.toNat ≤ max 1 limit.toNat) ∧
    (series watermark head limit).length =
      (head.toNat - watermark.toNat) ⌈/⌉ max 1 limit.toNat ∧
    (watermark ≤ head → Tiles watermark (series watermark head limit) head) ∧
    ((series watermark head limit).Pairwise fun v w => v.last < w.first) ∧
    ∀ height, (∃ w ∈ series watermark head limit, w.Contains height) ↔
      watermark < height ∧ height ≤ head := by
  refine ⟨next?_eq_none_iff .., ?_, length_series .., tiles_series limit, ?_,
    exists_mem_series_iff watermark head limit⟩
  · intro w hw
    have hnext := isNext_of_next? hw
    have hfirst := hnext.first_eq
    have hlt := UInt64.lt_iff_toNat_lt.1 hnext.follows.lt_last
    have hsize := hnext.follows.toNat_size
    exact ⟨hnext, hnext.follows.first_le, by omega, by omega, hnext.size_le⟩
  · by_cases h : watermark ≤ head
    · exact (tiles_series limit h).pairwise_last_lt_first
    · rw [series_eq_nil limit (UInt64.le_of_lt (UInt64.not_le.1 h))]
      exact .nil

/-- The greatest word as the head, 25 blocks behind the watermark: with a limit of ten there are
three windows, although the sum for the end of the last one is no word. -/
theorem series_exact_greatestHead :
    (series 18446744073709551590 18446744073709551615 10).length = 3 ∧
      Tiles 18446744073709551590 (series 18446744073709551590 18446744073709551615 10)
        18446744073709551615 := by
  obtain ⟨-, -, hlength, htiles, -⟩ :=
    series_exact 18446744073709551590 18446744073709551615 10
  exact ⟨hlength, htiles (by decide)⟩

end Window

end BridgeWatch
