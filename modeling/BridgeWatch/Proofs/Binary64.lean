import BridgeWatch.Binary64
import Mathlib.Data.Nat.Dist
import Mathlib.Tactic.Common

/-!
# Natural numbers as doubles

* `Binary64.IsNearest n g`: the whole number `g` is what becomes of `n` as a double: it has a
  mantissa of 53 bits, no number that has one is closer to `n`, and a tie goes to the even mantissa.
* `isNearest_magnitude_ofNat`: the conversion of words of 64 bits is of this kind.
-/

namespace BridgeWatch.Binary64

/-! ## The nearest multiple -/

/-- A rounded quotient is the quotient or the next number, whichever multiple is closer. -/
theorem divNearestEven_cases (a d : Nat) :
    (divNearestEven a d = a / d ∧ 2 * (a % d) ≤ d ∧ (2 * (a % d) = d → a / d % 2 = 0)) ∨
      (divNearestEven a d = a / d + 1 ∧ d ≤ 2 * (a % d) ∧
        (2 * (a % d) = d → a / d % 2 = 1)) := by
  unfold divNearestEven
  dsimp only
  split
  · rename_i h
    exact .inr ⟨rfl, by omega, by omega⟩
  · rename_i h
    exact .inl ⟨rfl, by omega, by omega⟩

/-- No multiple is closer than the rounded one. -/
theorem dist_divNearestEven_le (a : Nat) {d : Nat} (hd : 0 < d) (k : Nat) :
    Nat.dist a (divNearestEven a d * d) ≤ Nat.dist a (k * d) := by
  have ha := Nat.div_add_mod' a d
  have hr := Nat.mod_lt a hd
  have hsucc : (a / d + 1) * d = a / d * d + d := Nat.succ_mul ..
  -- any other multiple is below the quotient's, or above the next one
  have hk : k * d ≤ a / d * d ∨ (a / d + 1) * d ≤ k * d := by
    rcases Nat.lt_or_ge (a / d) k with h | h
    · exact .inr (Nat.mul_le_mul_right d h)
    · exact .inl (Nat.mul_le_mul_right d h)
  unfold Nat.dist
  rcases divNearestEven_cases a d with ⟨h, hle, -⟩ | ⟨h, hle, -⟩
  · rw [h]
    omega
  · rw [h]
    omega

/-- A tie goes to the even multiple. -/
theorem divNearestEven_even (a : Nat) {d : Nat} (hd : 0 < d)
    (h : 2 * Nat.dist a (divNearestEven a d * d) = d) : divNearestEven a d % 2 = 0 := by
  have ha := Nat.div_add_mod' a d
  have hr := Nat.mod_lt a hd
  have hsucc : (a / d + 1) * d = a / d * d + d := Nat.succ_mul ..
  unfold Nat.dist at h
  rcases divNearestEven_cases a d with ⟨he, -, htie⟩ | ⟨he, -, htie⟩
  · rw [he] at h ⊢
    exact htie (by omega)
  · rw [he] at h ⊢
    have := htie (by omega)
    omega

/-! ## The conversion -/

/-- The exponent of the last place of a natural number's mantissa. -/
def unit (n : Nat) : Nat := n.log2 - 52

theorem lt_two_pow_unit (n : Nat) : n < 2 ^ 53 * 2 ^ unit n := by
  rw [← Nat.pow_add]
  exact Nat.lt_of_lt_of_le Nat.lt_log2_self
    (Nat.pow_le_pow_right (by decide) (by unfold unit; omega))

theorem two_pow_unit_le {n : Nat} (h : unit n ≠ 0) : 2 ^ 52 * 2 ^ unit n ≤ n := by
  have hn : n ≠ 0 := by
    rintro rfl
    exact h rfl
  rw [← Nat.pow_add, show 52 + unit n = n.log2 by unfold unit at h ⊢; omega]
  exact Nat.log2_self_le hn

theorem scaleOf_one {n : Nat} (hn : n ≠ 0) : scaleOf n 1 = (n.log2 : Int) - 52 := by
  have hself := Nat.log2_self_le hn
  have hlog : Nat.log2 1 = 0 := by decide
  have hfull : ¬n * (1 <<< (-((n.log2 : Int) - 52)).toNat) <
      leastFull * (1 * (1 <<< ((n.log2 : Int) - 52).toNat)) := by
    rw [leastFull, Nat.one_mul, Nat.one_shiftLeft, Nat.one_shiftLeft, Nat.one_shiftLeft]
    rcases Nat.le_total n.log2 52 with h | h
    · rw [show ((n.log2 : Int) - 52).toNat = 0 by omega,
        show (-((n.log2 : Int) - 52)).toNat = 52 - n.log2 by omega, Nat.pow_zero, Nat.mul_one,
        Nat.not_lt]
      calc 2 ^ 52 = 2 ^ n.log2 * 2 ^ (52 - n.log2) := by
            rw [← Nat.pow_add, Nat.add_sub_cancel' h]
        _ ≤ n * 2 ^ (52 - n.log2) := Nat.mul_le_mul_right _ hself
    · rw [show ((n.log2 : Int) - 52).toNat = n.log2 - 52 by omega,
        show (-((n.log2 : Int) - 52)).toNat = 0 by omega, Nat.pow_zero, Nat.mul_one, Nat.not_lt,
        ← Nat.pow_add, Nat.add_sub_cancel' h]
      exact hself
  simp only [scaleOf, powerOfTwo, hlog, Int.natCast_zero, Int.sub_zero]
  rw [if_neg hfull]
  omega

/-- A word of 64 bits is rounded to a multiple of the unit of its mantissa. -/
theorem magnitude_ofNat {n : Nat} (h : n < 2 ^ 64) :
    (ofNat n).magnitude = divNearestEven n (2 ^ unit n) * 2 ^ unit n := by
  by_cases hn : n = 0
  · subst hn
    rfl
  have hlog : n.log2 < 64 := (Nat.log2_lt hn).2 h
  have hlt := lt_two_pow_unit n
  have hone (a : Nat) : divNearestEven a 1 = a := by
    simp [divNearestEven, Nat.mod_one]
  simp only [ofNat, ofRatio?, hn, if_false, scaleOf_one hn, powerOfTwo, leastFull, Nat.one_mul,
    Nat.one_shiftLeft]
  rcases Nat.le_total n.log2 52 with hle | hge
  · -- the number fits and is only shifted
    have hunit : unit n = 0 := Nat.sub_eq_zero_of_le hle
    have hfit : n * 2 ^ (52 - n.log2) < 2 * 2 ^ 52 := by
      calc n * 2 ^ (52 - n.log2) < 2 ^ (n.log2 + 1) * 2 ^ (52 - n.log2) :=
            Nat.mul_lt_mul_of_pos_right Nat.lt_log2_self (Nat.two_pow_pos _)
        _ = 2 * 2 ^ 52 := by
            rw [← Nat.pow_add, ← Nat.pow_succ', show n.log2 + 1 + (52 - n.log2) = 52 + 1 by omega]
    rw [show ((n.log2 : Int) - 52).toNat = 0 by omega,
      show (-((n.log2 : Int) - 52)).toNat = 52 - n.log2 by omega, Nat.pow_zero, hone,
      if_neg (Nat.ne_of_lt hfit), if_neg (by omega), hunit, Nat.pow_zero, hone]
    simp only [Option.getD_some, magnitude, ratio, powerOfTwo, Nat.one_shiftLeft]
    rw [show ((n.log2 : Int) - 52).toNat = 0 by omega,
      show (-((n.log2 : Int) - 52)).toNat = 52 - n.log2 by omega, Nat.pow_zero, Nat.mul_one,
      Nat.mul_one, Nat.mul_div_cancel _ (Nat.two_pow_pos _)]
  · rw [show ((n.log2 : Int) - 52).toNat = unit n by unfold unit; omega,
      show (-((n.log2 : Int) - 52)).toNat = 0 by omega, Nat.pow_zero, Nat.mul_one]
    split
    · -- the mantissa has grown by a bit
      rename_i hgrown
      rw [if_neg (by omega)]
      simp only [Option.getD_some, magnitude, ratio, powerOfTwo, Nat.one_shiftLeft]
      rw [show ((n.log2 : Int) - 52 + 1).toNat = unit n + 1 by unfold unit; omega,
        show (-((n.log2 : Int) - 52 + 1)).toNat = 0 by omega, Nat.pow_zero, Nat.div_one, hgrown,
        Nat.pow_succ']
      omega
    · rw [if_neg (by omega)]
      simp only [Option.getD_some, magnitude, ratio, powerOfTwo, Nat.one_shiftLeft]
      rw [show ((n.log2 : Int) - 52).toNat = unit n by unfold unit; omega,
        show (-((n.log2 : Int) - 52)).toNat = 0 by omega, Nat.pow_zero, Nat.div_one]

/-- The whole number `g` is what becomes of `n` as a double. -/
structure IsNearest (n g : Nat) : Prop where
  /-- It has a mantissa of 53 bits. -/
  representable : ∃ m e, m < 2 ^ 53 ∧ g = m * 2 ^ e
  /-- No number that has one is closer. -/
  closest : ∀ m e, m < 2 ^ 53 → Nat.dist n g ≤ Nat.dist n (m * 2 ^ e)
  /-- Halfway between two of them, it is the one with the even mantissa. -/
  even : 2 * Nat.dist n g = 2 ^ unit n → g / 2 ^ unit n % 2 = 0

/-- **A word of 64 bits becomes the nearest double.** -/
theorem isNearest_magnitude_ofNat {n : Nat} (h : n < 2 ^ 64) :
    IsNearest n (ofNat n).magnitude := by
  have hpos : 0 < 2 ^ unit n := Nat.two_pow_pos _
  have hle : divNearestEven n (2 ^ unit n) ≤ 2 ^ 53 := by
    have hdiv : n / 2 ^ unit n < 2 ^ 53 := (Nat.div_lt_iff_lt_mul hpos).2 (lt_two_pow_unit n)
    rcases divNearestEven_cases n (2 ^ unit n) with ⟨he, -⟩ | ⟨he, -⟩
    · omega
    · omega
  rw [magnitude_ofNat h]
  refine ⟨?_, ?_, ?_⟩
  · rcases Nat.lt_or_eq_of_le hle with hlt | heq
    · exact ⟨_, _, hlt, rfl⟩
    · refine ⟨2 ^ 52, unit n + 1, by decide, ?_⟩
      rw [heq, Nat.pow_succ 2 52, Nat.mul_assoc, ← Nat.pow_succ']
  · intro m e hm
    rcases Nat.lt_or_ge e (unit n) with he | he
    · -- a finer number is below the least one with the unit of `n`, and so is no closer
      have hfine : m * 2 ^ e ≤ 2 ^ 52 * 2 ^ unit n := by
        calc m * 2 ^ e ≤ 2 ^ 53 * 2 ^ e := Nat.mul_le_mul_right _ (Nat.le_of_lt hm)
          _ = 2 ^ 52 * 2 ^ (e + 1) := by rw [Nat.pow_succ 2 52, Nat.mul_assoc, ← Nat.pow_succ']
          _ ≤ 2 ^ 52 * 2 ^ unit n :=
              Nat.mul_le_mul_left _ (Nat.pow_le_pow_right (by decide) he)
      have hleast := two_pow_unit_le (n := n) (by omega)
      refine Nat.le_trans (dist_divNearestEven_le n hpos (2 ^ 52)) ?_
      unfold Nat.dist
      omega
    · obtain ⟨k, rfl⟩ := Nat.exists_eq_add_of_le he
      rw [Nat.pow_add, Nat.mul_left_comm, Nat.mul_comm (2 ^ unit n)]
      exact dist_divNearestEven_le n hpos _
  · intro htie
    rw [Nat.mul_div_cancel _ hpos]
    exact divNearestEven_even n hpos htie

end BridgeWatch.Binary64
