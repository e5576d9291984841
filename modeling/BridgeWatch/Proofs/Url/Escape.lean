import BridgeWatch.Proofs.Text.Utf8
import BridgeWatch.Url.Escape
import Mathlib.Tactic.Common

/-!
# What escaped texts stand for

* `unescape_escape_inPath`: escaping a text for a path does not change what it stands for.
* `unescape_eq_encode_iff`: a text stands for its own bytes exactly when no escape is written in it
  already (`hasEscape`), for the sign `%` is not escaped.
-/

namespace BridgeWatch.Url

open Text.Utf8 (encode)

/-- A text starts with two digits. -/
def startsDigits : List Char → Bool
  | a :: b :: _ => (Text.Hex.digit? a).isSome && (Text.Hex.digit? b).isSome
  | _ => false

/-- Somewhere in a text, two digits follow the sign `%`. -/
def hasEscape : List Char → Bool
  | [] => false
  | c :: cs => (c == '%' && startsDigits cs) || hasEscape cs

variable {c a b : Char} {cs ds : List Char}

/-! ## The reader of escapes -/

theorem exists_digits (h : startsDigits cs = true) :
    ∃ a b rest x y, cs = a :: b :: rest ∧ Text.Hex.digit? a = some x ∧
      Text.Hex.digit? b = some y := by
  unfold startsDigits at h
  split at h
  · rename_i a b rest
    rw [Bool.and_eq_true, Option.isSome_iff_exists, Option.isSome_iff_exists] at h
    obtain ⟨⟨x, hx⟩, y, hy⟩ := h
    exact ⟨a, b, rest, x, y, rfl, hx, hy⟩
  · cases h

theorem startsDigits_of_eq_some {x y : Nat} (ha : Text.Hex.digit? a = some x)
    (hb : Text.Hex.digit? b = some y) : startsDigits (a :: b :: cs) = true := by
  rw [startsDigits, ha, hb]
  rfl

/-- An escape stands for a byte. -/
theorem unescape_mark {x y : Nat} (ha : Text.Hex.digit? a = some x)
    (hb : Text.Hex.digit? b = some y) :
    unescape ('%' :: a :: b :: cs) = UInt8.ofNat (x * 16 + y) :: unescape cs := by
  rw [unescape, ha, hb]

/-- Any other character stands for itself. -/
theorem unescape_cons (h : (c == '%' && startsDigits cs) = false) :
    unescape (c :: cs) = String.utf8EncodeChar c ++ unescape cs := by
  by_cases hc : c = '%'
  · subst hc
    match cs with
    | [] | [_] => rfl
    | a :: b :: cs =>
      rw [beq_self_eq_true, Bool.true_and] at h
      rw [unescape]
      split
      · rename_i ha hb
        rw [startsDigits_of_eq_some ha hb] at h
        cases h
      · rfl
  · rw [unescape]
    rintro a b rest rfl
    exact absurd rfl hc

/-! ## Texts that stand for their own bytes -/

theorem encode_cons (c : Char) (cs : List Char) :
    encode (c :: cs) = String.utf8EncodeChar c ++ encode cs := rfl

theorem length_utf8EncodeChar_pos (c : Char) : 0 < (String.utf8EncodeChar c).length := by
  unfold String.utf8EncodeChar
  dsimp only
  split_ifs <;> exact Nat.succ_pos _

theorem unescape_of_hasEscape_eq_false (h : hasEscape cs = false) : unescape cs = encode cs := by
  induction cs with
  | nil => rfl
  | cons c cs ih =>
    rw [hasEscape, Bool.or_eq_false_iff] at h
    rw [unescape_cons h.1, ih h.2, encode_cons]

theorem length_unescape_le (cs : List Char) : (unescape cs).length ≤ (encode cs).length := by
  fun_induction unescape cs with
  | case1 a b cs x y ha hb ih =>
    have := length_utf8EncodeChar_pos '%'
    simp only [encode_cons, List.length_cons, List.length_append]
    omega
  | case2 a b cs h ih =>
    rw [encode_cons]
    exact Nat.succ_le_succ ih
  | case3 c cs h ih =>
    rw [encode_cons, List.length_append, List.length_append]
    omega
  | case4 => exact Nat.le_refl 0

theorem length_unescape_lt (h : hasEscape cs = true) :
    (unescape cs).length < (encode cs).length := by
  induction cs with
  | nil => cases h
  | cons c cs ih =>
    by_cases hmark : (c == '%' && startsDigits cs) = true
    · rw [Bool.and_eq_true, beq_iff_eq] at hmark
      obtain ⟨rfl, hdigits⟩ := hmark
      obtain ⟨a, b, rest, x, y, rfl, ha, hb⟩ := exists_digits hdigits
      have hle := length_unescape_le rest
      have hpercent := length_utf8EncodeChar_pos '%'
      have hpos := length_utf8EncodeChar_pos a
      simp only [unescape_mark ha hb, encode_cons, List.length_cons, List.length_append]
      omega
    · rw [Bool.not_eq_true] at hmark
      rw [hasEscape, hmark, Bool.false_or] at h
      rw [unescape_cons hmark, encode_cons, List.length_append, List.length_append]
      exact Nat.add_lt_add_left (ih h) _

/-- A text stands for its own bytes exactly when no escape is written in it. -/
theorem unescape_eq_encode_iff : unescape cs = encode cs ↔ hasEscape cs = false := by
  refine ⟨fun h => ?_, unescape_of_hasEscape_eq_false⟩
  rw [← Bool.not_eq_true]
  intro hescape
  have hlt := length_unescape_lt hescape
  rw [h] at hlt
  exact Nat.lt_irrefl _ hlt

/-! ## Escaping -/

theorem escape_cons (p : Char → Bool) (c : Char) (cs : List Char) :
    escape p (c :: cs) =
      (if p c then (String.utf8EncodeChar c).flatMap escapedByte else [c]) ++ escape p cs := rfl

theorem digit?_capitalDigit {n : Nat} (h : n < 16) : Text.Hex.digit? (capitalDigit n) = some n := by
  have : ∀ n : Fin 16, Text.Hex.digit? (capitalDigit n) = some n.val := by decide
  exact this ⟨n, h⟩

/-- Escaped bytes are read back. -/
theorem unescape_flatMap_escapedByte (bs : Bytes) (cs : List Char) :
    unescape (bs.flatMap escapedByte ++ cs) = bs ++ unescape cs := by
  induction bs with
  | nil => rfl
  | cons b bs ih =>
    have hb := b.toNat_lt
    have hhigh := digit?_capitalDigit (show b.toNat / 16 < 16 by omega)
    have hlow := digit?_capitalDigit (show b.toNat % 16 < 16 by omega)
    rw [List.flatMap_cons, List.append_assoc]
    show unescape ('%' :: _ :: _ :: (bs.flatMap escapedByte ++ cs)) = _
    rw [unescape_mark hhigh hlow, ih, Nat.div_add_mod', UInt8.ofNat_toNat, List.cons_append]

/-- No digit is escaped in a path. -/
theorem digit?_of_inPath (h : inPath c = true) : Text.Hex.digit? c = none := by
  rw [inPath, Bool.or_eq_true, List.contains_iff_mem] at h
  rcases h with h | h
  · rw [isUnprintable, Bool.or_eq_true, decide_eq_true_iff, decide_eq_true_iff] at h
    unfold Text.Hex.digit?
    simp only
    rw [if_neg (by omega), if_neg (by omega), if_neg (by omega)]
  · simp only [List.mem_cons, List.not_mem_nil, or_false] at h
    rcases h with rfl | rfl | rfl | rfl | rfl | rfl | rfl | rfl | rfl <;> rfl

/-- A character is escaped to a text that starts with `%`. -/
theorem exists_escaped (c : Char) :
    ∃ rest, (String.utf8EncodeChar c).flatMap escapedByte = '%' :: rest := by
  cases h : String.utf8EncodeChar c with
  | nil =>
    have hpos := length_utf8EncodeChar_pos c
    rw [h] at hpos
    cases hpos
  | cons b bs => exact ⟨_, rfl⟩

theorem startsDigits_percent (cs : List Char) : startsDigits ('%' :: cs) = false := by
  cases cs <;> rfl

theorem startsDigits_cons_percent (c : Char) (cs : List Char) :
    startsDigits (c :: '%' :: cs) = false :=
  Bool.and_false _

/-- Escaping makes no digits and takes none away. -/
theorem startsDigits_escape (cs : List Char) :
    startsDigits (escape inPath cs) = startsDigits cs := by
  match cs with
  | [] => rfl
  | a :: cs =>
    rw [escape_cons]
    by_cases ha : inPath a = true
    · obtain ⟨rest, hrest⟩ := exists_escaped a
      rw [if_pos ha, hrest, List.cons_append, startsDigits_percent]
      cases cs with
      | nil => rfl
      | cons b cs => rw [startsDigits, digit?_of_inPath ha]; rfl
    · rw [if_neg ha, List.singleton_append]
      match cs with
      | [] => rfl
      | b :: cs =>
        rw [escape_cons]
        by_cases hb : inPath b = true
        · obtain ⟨rest, hrest⟩ := exists_escaped b
          rw [if_pos hb, hrest, List.cons_append, startsDigits_cons_percent, startsDigits,
            digit?_of_inPath hb, Option.isSome_none, Bool.and_false]
        · rw [if_neg hb]
          rfl

/-- **Escaping a text for a path does not change what it stands for.** -/
theorem unescape_escape_inPath (cs : List Char) : unescape (escape inPath cs) = unescape cs := by
  -- an escape takes three characters, so the induction is not on the list
  induction h : cs.length using Nat.strongRecOn generalizing cs with
  | _ n ih =>
    subst h
    cases cs with
    | nil => rfl
    | cons c cs =>
      by_cases hmark : (c == '%' && startsDigits cs) = true
      · rw [Bool.and_eq_true, beq_iff_eq] at hmark
        obtain ⟨rfl, hdigits⟩ := hmark
        obtain ⟨a, b, rest, x, y, rfl, ha, hb⟩ := exists_digits hdigits
        have kept {d : Char} {n : Nat} (hd : Text.Hex.digit? d = some n) : ¬inPath d = true := by
          intro hpath
          rw [digit?_of_inPath hpath] at hd
          cases hd
        have hrest := ih rest.length (by simp only [List.length_cons]; omega) rest rfl
        rw [escape_cons, escape_cons, escape_cons, if_neg (by decide), if_neg (kept ha),
          if_neg (kept hb)]
        show unescape ('%' :: a :: b :: escape inPath rest) = _
        rw [unescape_mark ha hb, unescape_mark ha hb, hrest]
      · rw [Bool.not_eq_true] at hmark
        have hrest := ih cs.length (Nat.lt_succ_self _) cs rfl
        rw [escape_cons, unescape_cons hmark]
        split
        · rw [unescape_flatMap_escapedByte, hrest]
        · rw [List.singleton_append, unescape_cons (by rwa [startsDigits_escape]), hrest]

end BridgeWatch.Url
