import BridgeWatch.Text.Hex
import Mathlib.Algebra.Group.Nat.Defs
import Mathlib.Tactic.Common

/-!
# Numbers read back from hexadecimal digits

* `toNat?_fixed`: the digits of a number in a fixed count give the number back.
* `eq_digit_halfByte`: the digits of bytes are those of their half bytes.
* `toNat?_map_toLower`: digits are read in either case.
* `Spells`: the texts that may stand for digits, which are written in either case and behind `0x` or
  not.
-/

namespace BridgeWatch.Text.Hex

/-! ## Digits -/

theorem toNatFrom?_append {value n : Nat} {cs ds : List Char} (h : toNatFrom? value cs = some n) :
    toNatFrom? value (cs ++ ds) = toNatFrom? n ds := by
  induction cs generalizing value with
  | nil =>
    obtain rfl : value = n := Option.some.inj h
    rfl
  | cons c cs ih =>
    rw [List.cons_append, toNatFrom?]
    rw [toNatFrom?] at h
    obtain ⟨d, hd, h⟩ := Option.bind_eq_some_iff.1 h
    rw [hd, Option.bind_some]
    exact ih h

/-- The last digits of a number are read as what the number is modulo a power of sixteen. -/
theorem toNat?_fixed_mod (count n : Nat) : toNat? (fixed count n) = some (n % 16 ^ count) := by
  induction count generalizing n with
  | zero =>
    rw [Nat.pow_zero, Nat.mod_one]
    rfl
  | succ count ih =>
    have hlast : n % 16 < 16 := Nat.mod_lt _ (by decide)
    rw [fixed, toNat?, toNatFrom?_append (ih (n / 16)), toNatFrom?, digit?_digit hlast,
      Option.bind_some, toNatFrom?, Nat.pow_succ, Nat.mul_comm (16 ^ count) 16, Nat.mod_mul]
    rw [Nat.mul_comm, Nat.add_comm]

/-- A number that fits in some digits is read back from them. -/
theorem toNat?_fixed {count n : Nat} (h : n < 16 ^ count) : toNat? (fixed count n) = some n := by
  rw [toNat?_fixed_mod, Nat.mod_eq_of_lt h]

/-- Zeros in front of digits count for nothing. -/
theorem toNat?_zeros_append (zeros : Nat) (cs : List Char) :
    toNat? (List.replicate zeros '0' ++ cs) = toNat? cs := by
  induction zeros with
  | zero => rfl
  | succ zeros ih => exact ih

/-- Each digit of a number is that of a number below sixteen. -/
theorem exists_digit_of_mem_fixed {count n : Nat} {c : Char} (h : c ∈ fixed count n) :
    ∃ d, d < 16 ∧ c = digit d := by
  induction count generalizing n with
  | zero => cases h
  | succ count ih =>
    rw [fixed, List.mem_append, List.mem_singleton] at h
    rcases h with h | rfl
    · exact ih h
    · exact ⟨n % 16, Nat.mod_lt _ (by decide), rfl⟩

/-- Some digits for a number that needs none are zeros. -/
theorem fixed_zero (count : Nat) : fixed count 0 = List.replicate count '0' := by
  induction count with
  | zero => rfl
  | succ count ih =>
    rw [fixed, Nat.zero_div, ih, List.replicate_succ']
    rfl

theorem digitChar_eq_digit {n : Nat} (h : n < 16) : Nat.digitChar n = digit n := by
  have : ∀ n : Fin 16, Nat.digitChar n = digit n := by decide
  exact this ⟨n, h⟩

theorem minimal_of_lt {n : Nat} (h : n < 16) : minimal n = [digit n] := by
  rw [minimal, Nat.toDigits_of_lt_base h, digitChar_eq_digit h]

theorem minimal_of_le {n : Nat} (h : 16 ≤ n) :
    minimal n = minimal (n / 16) ++ [digit (n % 16)] := by
  have hlast : n % 16 < 16 := Nat.mod_lt _ (by decide)
  have hsplit := Nat.toDigits_append_toDigits (b := 16) (by decide)
    (show 0 < n / 16 by omega) hlast
  rw [Nat.div_add_mod, Nat.toDigits_of_lt_base hlast, digitChar_eq_digit hlast] at hsplit
  exact hsplit.symm

/-- A number that fits in some digits has these digits with zeros in front. -/
theorem fixed_eq_zeros_append {count n : Nat} (h : n < 16 ^ (count + 1)) :
    ∃ zeros, fixed (count + 1) n = List.replicate zeros '0' ++ minimal n := by
  induction count generalizing n with
  | zero =>
    have hn : n < 16 := h
    refine ⟨0, ?_⟩
    rw [minimal_of_lt hn, fixed, Nat.mod_eq_of_lt hn]
    rfl
  | succ count ih =>
    rw [fixed]
    by_cases hn : n < 16
    · refine ⟨count + 1, ?_⟩
      rw [minimal_of_lt hn, Nat.div_eq_of_lt hn, fixed_zero, Nat.mod_eq_of_lt hn]
    · rw [Nat.pow_succ, Nat.mul_comm] at h
      obtain ⟨zeros, hzeros⟩ := ih (Nat.div_lt_of_lt_mul h)
      refine ⟨zeros, ?_⟩
      rw [minimal_of_le (Nat.not_lt.1 hn), hzeros, List.append_assoc]

theorem exists_digit_of_mem_minimal {n : Nat} {c : Char} (h : c ∈ minimal n) :
    ∃ d, d < 16 ∧ c = digit d := by
  have hfits : n < 16 ^ (n + 1) := Nat.lt_trans (Nat.lt_succ_self n) (Nat.lt_pow_self (by decide))
  obtain ⟨zeros, hzeros⟩ := fixed_eq_zeros_append hfits
  have hmem : c ∈ fixed (n + 1) n := by
    rw [hzeros]
    exact List.mem_append_right _ h
  exact exists_digit_of_mem_fixed hmem

/-- A number is read back from its digits. -/
theorem toNat?_minimal (n : Nat) : toNat? (minimal n) = some n := by
  have hfits : n < 16 ^ (n + 1) := Nat.lt_trans (Nat.lt_succ_self n) (Nat.lt_pow_self (by decide))
  obtain ⟨zeros, hzeros⟩ := fixed_eq_zeros_append hfits
  rw [← toNat?_zeros_append zeros, ← hzeros, toNat?_fixed hfits]

/-- A number that fits in some digits has no more of them. -/
theorem length_minimal_le {count n : Nat} (h : n < 16 ^ (count + 1)) :
    (minimal n).length ≤ count + 1 := by
  obtain ⟨zeros, hzeros⟩ := fixed_eq_zeros_append h
  have hlength := congrArg List.length hzeros
  rw [length_fixed, List.length_append] at hlength
  omega

theorem exists_digit_of_mem_ofBytes {bs : Bytes} {c : Char} (h : c ∈ ofBytes bs) :
    ∃ d, d < 16 ∧ c = digit d := by
  induction bs with
  | nil => cases h
  | cons b bs ih =>
    have hb := b.toNat_lt
    rw [ofBytes, List.mem_cons, List.mem_cons] at h
    rcases h with rfl | rfl | h
    · exact ⟨_, by omega, rfl⟩
    · exact ⟨_, Nat.mod_lt _ (by decide), rfl⟩
    · exact ih h

theorem length_ofBytes (bs : Bytes) : (ofBytes bs).length = 2 * bs.length := by
  induction bs with
  | nil => rfl
  | cons b bs ih =>
    simp only [ofBytes, List.length_cons, ih]
    omega

/-- The half byte at a place of some bytes, the high half of a byte before the low one. -/
def halfByte (bs : Bytes) (i : Nat) : Nat :=
  let b := (bs[i / 2]?.getD 0).toNat
  if i % 2 = 0 then b / 16 else b % 16

theorem halfByte_lt (bs : Bytes) (i : Nat) : halfByte bs i < 16 := by
  have hlt := (bs[i / 2]?.getD 0).toNat_lt
  unfold halfByte
  dsimp only
  split <;> omega

theorem halfByte_cons_add_two (b : UInt8) (bs : Bytes) (i : Nat) :
    halfByte (b :: bs) (i + 2) = halfByte bs i := by
  have hbyte : (i + 2) / 2 = i / 2 + 1 := by omega
  rw [halfByte, hbyte, List.getElem?_cons_succ, Nat.add_mod_right]
  rfl

/-- Each digit is that of the half byte at its place. -/
theorem eq_digit_halfByte {bs : Bytes} {i : Nat} {c : Char} (h : (ofBytes bs)[i]? = some c) :
    c = digit (halfByte bs i) := by
  induction bs generalizing i with
  | nil => cases h
  | cons b bs ih =>
    match i with
    | 0 | 1 =>
      cases h
      rfl
    | i + 2 =>
      rw [ofBytes, List.getElem?_cons_succ, List.getElem?_cons_succ] at h
      rw [halfByte_cons_add_two]
      exact ih h

/-! ## Either case -/

theorem toNat_toLower (c : Char) :
    c.toLower.toNat = if 65 ≤ c.toNat ∧ c.toNat ≤ 90 then c.toNat + 32 else c.toNat := by
  have hcapital : c.val ≥ 'A'.val ∧ c.val ≤ 'Z'.val ↔ 65 ≤ c.toNat ∧ c.toNat ≤ 90 := by
    rw [ge_iff_le, UInt32.le_iff_toNat_le, UInt32.le_iff_toNat_le]
    rfl
  unfold Char.toLower
  by_cases h : 65 ≤ c.toNat ∧ c.toNat ≤ 90
  · rw [dif_pos (hcapital.2 h), if_pos h]
    have hfits : c.toNat + 32 < 2 ^ 32 := by omega
    exact Nat.mod_eq_of_lt hfits
  · rw [dif_neg (mt hcapital.1 h), if_neg h]

/-- A digit has the value of its lowercase. -/
theorem digit?_toLower (c : Char) : digit? c.toLower = digit? c := by
  unfold digit?
  rw [toNat_toLower]
  split
  · -- a capital: a digit up to F, no digit behind
    rename_i hcapital
    have hnumber : ¬c.toNat ≤ 57 := by omega
    have hlower : ¬97 ≤ c.toNat := by omega
    by_cases hf : c.toNat ≤ 70
    · simp only [hnumber, hlower, hcapital.1, hf, and_false, false_and, and_self, if_true,
        if_false]
      rw [if_neg (by omega), if_pos (by omega)]
      congr 1
    · simp only [hnumber, hlower, hf, and_false, false_and, if_false]
      rw [if_neg (by omega), if_neg (by omega), if_neg (by omega)]
  · rfl

theorem toNatFrom?_map_toLower (value : Nat) (cs : List Char) :
    toNatFrom? value (cs.map Char.toLower) = toNatFrom? value cs := by
  induction cs generalizing value with
  | nil => rfl
  | cons c cs ih =>
    rw [List.map_cons, toNatFrom?, toNatFrom?, digit?_toLower]
    simp only [ih]

/-- Digits are read in either case. -/
theorem toNat?_map_toLower (cs : List Char) : toNat? (cs.map Char.toLower) = toNat? cs :=
  toNatFrom?_map_toLower 0 cs

theorem toBytes?_map_toLower (cs : List Char) : toBytes? (cs.map Char.toLower) = toBytes? cs := by
  fun_induction toBytes? cs with
  | case1 => rfl
  | case2 => rfl
  | case3 a b cs ih =>
    rw [List.map_cons, List.map_cons, toBytes?, digit?_toLower, digit?_toLower, ih]

/-! ## Spellings -/

/-- A text stands for lowercase digits: it is written with these digits, in either case, behind `0x`
or not. -/
def Spells (digits : List Char) (s : String) : Prop :=
  ∃ ds, ds.map Char.toLower = digits ∧ (s.toList = ds ∨ s.toList = '0' :: 'x' :: ds)

theorem spells_marked {digits ds : List Char} (h : ds.map Char.toLower = digits) :
    Spells digits (marked ds) :=
  ⟨ds, h, .inr (by rw [marked, String.toList_ofList])⟩

theorem toLower_digit {d : Nat} (h : d < 16) : (digit d).toLower = digit d := by
  have : ∀ d : Fin 16, (digit d).toLower = digit d := by decide
  exact this ⟨d, h⟩

theorem map_toLower_eq_self {digits : List Char}
    (hdigits : ∀ c ∈ digits, ∃ d, d < 16 ∧ c = digit d) : digits.map Char.toLower = digits := by
  induction digits with
  | nil => rfl
  | cons c digits ih =>
    rw [List.forall_mem_cons] at hdigits
    obtain ⟨⟨d, hd, rfl⟩, hrest⟩ := hdigits
    rw [List.map_cons, toLower_digit hd, ih hrest]

/-- The digits of a text that stands for some, for the letter of the mark is no digit. -/
theorem Spells.dropMark {digits : List Char} {s : String} (h : Spells digits s)
    (hdigits : ∀ c ∈ digits, ∃ d, d < 16 ∧ c = digit d) :
    (Hex.dropMark s.toList).map Char.toLower = digits := by
  obtain ⟨ds, rfl, hs | hs⟩ := h
  · rw [hs]
    unfold Hex.dropMark
    split
    · rename_i cs
      obtain ⟨d, hd, hx⟩ := hdigits 'x' (by simp)
      have : ∀ d : Fin 16, 'x' ≠ digit d := by decide
      exact absurd hx (this ⟨d, hd⟩)
    · rfl
  · rw [hs]
    rfl

end BridgeWatch.Text.Hex
