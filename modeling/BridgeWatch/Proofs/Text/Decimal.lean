import BridgeWatch.Text.Decimal
import Mathlib.Data.List.Induction

/-!
# Numerals and the numbers they spell

A number has one numeral that is written (`decimalDigits`) and many that are read: zeros may stand
in front of the digits, and a plus sign in front of the zeros (`Spells`).

* `readNumeral_eq_ok_iff`: a text is read as a number exactly when it spells the number and the
  number is within the limit.
* `readNumeral_decimalDigits`: what is written is read back.
-/

namespace BridgeWatch.Text

/-- A text is a numeral of a number: its digits, with zeros and a plus sign in front or not. -/
def Spells (n : Nat) (cs : List Char) : Prop :=
  ∃ zeros, cs = List.replicate zeros '0' ++ decimalDigits n ∨
    cs = '+' :: (List.replicate zeros '0' ++ decimalDigits n)

variable {n limit : Nat} {cs : List Char}

theorem spells_decimalDigits (n : Nat) : Spells n (decimalDigits n) := ⟨0, .inl rfl⟩

/-! ## The digits of a number -/

theorem decimalDigits_ne_nil (n : Nat) : decimalDigits n ≠ [] := Nat.toDigits_ne_nil

theorem isDigit_of_mem_decimalDigits {c : Char} (h : c ∈ decimalDigits n) : c.isDigit = true :=
  Nat.isDigit_of_mem_toDigits (by decide) (by decide) h

/-- One more digit behind the digits of a number. -/
theorem decimalDigits_concat {d : Nat} (hn : 0 < n) (hd : d < 10) :
    decimalDigits (10 * n + d) = decimalDigits n ++ decimalDigits d :=
  (Nat.toDigits_append_toDigits (by decide) hn hd).symm

/-- A character that is a digit is the digit of a number below ten. -/
theorem exists_digitChar {c : Char} (h : c.isDigit = true) :
    ∃ d, d < 10 ∧ c.toNat - 48 = d ∧ [c] = decimalDigits d := by
  have hc : 48 ≤ c.toNat ∧ c.toNat ≤ 57 := by
    simpa [Char.isDigit, UInt32.le_iff_toNat_le] using h
  have hd : c.toNat - 48 < 10 := by omega
  refine ⟨c.toNat - 48, hd, rfl, ?_⟩
  rw [decimalDigits, Nat.toDigits_of_lt_base hd, List.singleton_inj, ← Char.toNat_inj,
    Nat.toNat_digitChar_of_lt_ten hd]
  omega

/-- Digits are those of the number that they give, with zeros in front. -/
theorem exists_zeros (hne : cs ≠ []) (h : ∀ c ∈ cs, c.isDigit = true) :
    ∃ zeros, cs = List.replicate zeros '0' ++ decimalDigits (Nat.ofDigitChars 10 cs 0) := by
  induction cs using List.reverseRecOn with
  | nil => exact absurd rfl hne
  | append_singleton cs c ih =>
    rw [List.forall_mem_append, List.forall_mem_singleton] at h
    obtain ⟨hcs, hc⟩ := h
    obtain ⟨d, hd, hval, hdigit⟩ := exists_digitChar hc
    have hlast : Nat.ofDigitChars 10 (cs ++ [c]) 0 = 10 * Nat.ofDigitChars 10 cs 0 + d := by
      rw [Nat.ofDigitChars_append, Nat.ofDigitChars_cons, Nat.ofDigitChars_nil, ← hval]
      rfl
    rw [hlast, hdigit]
    by_cases hnil : cs = []
    · subst hnil
      refine ⟨0, ?_⟩
      simp
    · obtain ⟨zeros, hz⟩ := ih hnil hcs
      rcases Nat.eq_zero_or_pos (Nat.ofDigitChars 10 cs 0) with h0 | hpos
      · -- all digits before the last one are zeros
        rw [h0] at hz ⊢
        refine ⟨zeros + 1, ?_⟩
        rw [List.replicate_succ', Nat.mul_zero, Nat.zero_add]
        rw [hz]
        rfl
      · refine ⟨zeros, ?_⟩
        rw [decimalDigits_concat hpos hd, ← List.append_assoc, ← hz]

/-! ## Reading -/

theorem le_ofDigitChars (value : Nat) : value ≤ Nat.ofDigitChars 10 cs value := by
  induction cs generalizing value with
  | nil => exact Nat.le_refl _
  | cons c cs ih =>
    rw [Nat.ofDigitChars_cons]
    exact Nat.le_trans (by omega) (ih _)

/-- Digits are read exactly when all of them are digits and their number is within the limit. -/
theorem readDigits_eq_ok_iff {value : Nat} (hv : value ≤ limit) :
    readDigits limit value cs = .ok n ↔
      (∀ c ∈ cs, c.isDigit = true) ∧ Nat.ofDigitChars 10 cs value = n ∧ n ≤ limit := by
  induction cs generalizing value with
  | nil =>
    simp only [readDigits, Except.ok.injEq, List.not_mem_nil, false_implies, implies_true,
      true_and, Nat.ofDigitChars_nil]
    constructor
    · rintro rfl
      exact ⟨rfl, hv⟩
    · exact And.left
  | cons c cs ih =>
    rw [readDigits, digit?, List.forall_mem_cons, Nat.ofDigitChars_cons]
    by_cases hc : c.isDigit = true
    · have hzero : '0'.toNat = 48 := rfl
      simp only [hc, if_true, true_and, hzero, Nat.mul_comm 10 value]
      split
      · rename_i hlt
        simp only [reduceCtorEq, false_iff]
        rintro ⟨-, hn, hle⟩
        have hge : _ ≤ Nat.ofDigitChars 10 cs _ := le_ofDigitChars (value * 10 + (c.toNat - 48))
        omega
      · rename_i hlt
        exact ih (Nat.not_lt.1 hlt)
    · simp [hc]

/-- Digits are read as a number exactly when they are its digits with zeros in front. -/
theorem readDigits_zero_eq_ok_iff (hne : cs ≠ []) : readDigits limit 0 cs = .ok n ↔
    n ≤ limit ∧ ∃ zeros, cs = List.replicate zeros '0' ++ decimalDigits n := by
  rw [readDigits_eq_ok_iff (Nat.zero_le _)]
  constructor
  · rintro ⟨hdigits, rfl, hle⟩
    exact ⟨hle, exists_zeros hne hdigits⟩
  · rintro ⟨hle, zeros, rfl⟩
    refine ⟨?_, ?_, hle⟩
    · rw [List.forall_mem_append]
      refine ⟨?_, fun c => isDigit_of_mem_decimalDigits⟩
      intro c hc
      rw [List.eq_of_mem_replicate hc]
      rfl
    · rw [Nat.ofDigitChars_append, Nat.ofDigitChars_replicate_zero, Nat.mul_zero]
      exact Nat.ofDigitChars_ten_toDigits

/-- The first character of the digits of a number, with zeros in front or not, is no plus sign. -/
theorem zeros_append_ne_plus_cons (zeros : Nat) (rest : List Char) :
    List.replicate zeros '0' ++ decimalDigits n ≠ '+' :: rest := by
  intro h
  have hmem : '+' ∈ List.replicate zeros '0' ++ decimalDigits n := by simp [h]
  rcases List.mem_append.1 hmem with hz | hd
  · exact absurd (List.eq_of_mem_replicate hz) (by decide)
  · exact absurd (isDigit_of_mem_decimalDigits hd) (by decide)

/-- **A text is read as a number exactly when it spells the number**, if that is within the
limit. -/
theorem readNumeral_eq_ok_iff : readNumeral limit cs = .ok n ↔ n ≤ limit ∧ Spells n cs := by
  have unsigned {zeros : Nat} : List.replicate zeros '0' ++ decimalDigits n ≠ [] := by
    simp [decimalDigits_ne_nil]
  unfold readNumeral Spells
  split
  · simp [decimalDigits_ne_nil]
  · -- a plus sign without digits
    refine iff_of_false nofun ?_
    rintro ⟨-, zeros, h | h⟩
    · exact zeros_append_ne_plus_cons zeros [] h.symm
    · exact unsigned (List.cons.inj h).2.symm
  · rename_i digits hne
    rw [readDigits_zero_eq_ok_iff hne]
    simp only [List.cons.injEq, true_and, (zeros_append_ne_plus_cons _ _).symm, false_or]
  · rename_i hnil hplus hcons
    rw [readDigits_zero_eq_ok_iff hnil]
    have signed (zeros : Nat) : cs ≠ '+' :: (List.replicate zeros '0' ++ decimalDigits n) :=
      fun h => hcons _ h
    simp only [signed, or_false]

/-- What is written is read back. -/
theorem readNumeral_decimalDigits (h : n ≤ limit) : readNumeral limit (decimalDigits n) = .ok n :=
  readNumeral_eq_ok_iff.2 ⟨h, spells_decimalDigits n⟩

end BridgeWatch.Text
