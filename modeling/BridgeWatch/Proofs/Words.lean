import BridgeWatch.Json.Words
import BridgeWatch.Proofs.Text.Decimal
import BridgeWatch.Proofs.Text.Hex
import BridgeWatch.Text.Utf8
import Mathlib.Data.List.Basic

/-!
# Words read back from their texts

* `Address.lower_checksumDigits`: the checked mixed case of an address is one of its digits in some
  case; `Address.isUpper_checksumDigits_iff`: which of them are capitals; `Json.address?_marked`: in
  any case the address is read back.
* `Address.IsSpelled`, `Hash.IsSpelled`, `Amount.IsSpelled`, `Bytes.IsSpelled`: the texts of hex
  digits that may stand for a word, each of which is read as the word.
* `Json.hash?_text`, `Json.bytes?_prefixed`, `Amount.ofText?_text`: hashes, byte strings and amounts
  are read back from their texts.
-/

namespace BridgeWatch

namespace Address

theorem lower_checksumDigit {d : Char} (hd : ∃ n, n < 16 ∧ d = Text.Hex.digit n) (h : Char) :
    (checksumDigit d h).toLower = d := by
  obtain ⟨n, hn, rfl⟩ := hd
  have hcase : ∀ n : Fin 16, (Text.Hex.digit n).toUpper.toLower = Text.Hex.digit n ∧
      (Text.Hex.digit n).toLower = Text.Hex.digit n := by decide
  obtain ⟨hupper, hlower⟩ := hcase ⟨n, hn⟩
  unfold checksumDigit
  split
  · split
    · exact hupper
    · exact hlower
  · exact hlower

theorem lower_zipWith_checksumDigit {digits cases : List Char}
    (hd : ∀ d ∈ digits, ∃ n, n < 16 ∧ d = Text.Hex.digit n)
    (enough : digits.length ≤ cases.length) :
    (List.zipWith checksumDigit digits cases).map Char.toLower = digits := by
  induction digits generalizing cases with
  | nil => rfl
  | cons d digits ih =>
    cases cases with
    | nil => cases enough
    | cons h cases =>
      rw [List.forall_mem_cons] at hd
      rw [List.zipWith_cons_cons, List.map_cons, lower_checksumDigit hd.1,
        ih hd.2 (Nat.le_of_succ_le_succ enough)]

/-- The checked mixed case of an address differs from its lowercase digits in the case only. -/
theorem lower_checksumDigits (a : Address) : a.checksumDigits.map Char.toLower = a.digits := by
  apply lower_zipWith_checksumDigit
  · intro d hd
    exact Text.Hex.exists_digit_of_mem_fixed hd
  · -- any hash has more digits than an address
    rw [Text.Hex.length_ofBytes, Keccak.length_hash, digits, Text.Hex.length_fixed]
    omega

theorem encode_digits (a : Address) :
    Text.Utf8.encode a.digits = a.digits.map fun c => UInt8.ofNat c.toNat := by
  have hbyte : ∀ n : Fin 16, String.utf8EncodeChar (Text.Hex.digit n) =
      [UInt8.ofNat (Text.Hex.digit n).toNat] := by decide
  rw [Text.Utf8.encode, List.map_eq_flatMap]
  refine List.flatMap_congr fun c hc => ?_
  obtain ⟨n, hn, rfl⟩ := Text.Hex.exists_digit_of_mem_fixed hc
  exact hbyte ⟨n, hn⟩

theorem isUpper_checksumDigit_iff {m n : Nat} (hm : m < 16) (hn : n < 16) :
    (checksumDigit (Text.Hex.digit m) (Text.Hex.digit n)).isUpper = true ↔ 10 ≤ m ∧ 8 ≤ n := by
  have hcase : ∀ m : Fin 16, ((Text.Hex.digit m).toUpper.isUpper = true ↔ 10 ≤ m.val) ∧
      (Text.Hex.digit m).isUpper = false := by decide
  obtain ⟨hupper, hlower⟩ := hcase ⟨m, hm⟩
  rw [checksumDigit, Text.Hex.digit?_digit hn]
  dsimp only
  split
  · rename_i hbit
    exact hupper.trans (and_iff_left hbit).symm
  · rename_i hbit
    simp only [hlower, hbit, and_false, Bool.false_eq_true]

/-- **The case of a letter is a bit of the hash.** A digit of the checked mixed case is a capital
exactly if it is a letter and the half byte at its place, in the hash of the lowercase text, is 8 or
more. -/
theorem isUpper_checksumDigits_iff (a : Address) {i m : Nat} {c : Char}
    (hm : a.digits[i]? = some (Text.Hex.digit m)) (lt : m < 16)
    (hc : a.checksumDigits[i]? = some c) : c.isUpper = true ↔
      10 ≤ m ∧ 8 ≤ Text.Hex.halfByte (Keccak.hash (Text.Utf8.encode a.digits)) i := by
  obtain ⟨d, h, hd, hh, rfl⟩ := List.getElem?_zipWith_eq_some.1 hc
  cases hm.symm.trans hd
  rw [← encode_digits] at hh
  rw [Text.Hex.eq_digit_halfByte hh, isUpper_checksumDigit_iff lt (Text.Hex.halfByte_lt _ i)]

end Address

/-! ## Spellings -/

namespace Json

/-- A value is a text that stands for lowercase digits. -/
def SpellsDigits (digits : List Char) (j : Json) : Prop :=
  ∃ s, j = .str s ∧ Text.Hex.Spells digits s

theorem spellsDigits_marked {digits ds : List Char} (h : ds.map Char.toLower = digits) :
    SpellsDigits digits (.str (Text.Hex.marked ds)) :=
  ⟨_, rfl, Text.Hex.spells_marked h⟩

/-- Digits are read from whatever stands for them. -/
theorem hex?_of_spells {digits : List Char} {j : Json} (h : SpellsDigits digits j)
    (hdigits : ∀ c ∈ digits, ∃ d, d < 16 ∧ c = Text.Hex.digit d) (fits : Nat → Bool)
    (hfits : fits digits.length = true) : j.hex? fits = Text.Hex.toNat? digits := by
  obtain ⟨s, rfl, hs⟩ := h
  have hdrop := hs.dropMark hdigits
  have hlength : (Text.Hex.dropMark s.toList).length = digits.length := by
    rw [← hdrop, List.length_map]
  show (if fits (Text.Hex.dropMark s.toList).length then
    Text.Hex.toNat? (Text.Hex.dropMark s.toList) else none) = _
  rw [hlength, if_pos hfits, ← Text.Hex.toNat?_map_toLower, hdrop]

end Json

/-- A value is a text that stands for an address. -/
def Address.IsSpelled (a : Address) : Json → Prop := Json.SpellsDigits a.digits

/-- A value is a text that stands for a hash. -/
def Hash.IsSpelled (h : Hash) : Json → Prop :=
  Json.SpellsDigits (Text.Hex.fixed 64 h.word.toNat)

/-- A value is a text that stands for an amount: there may be zeros in front of its digits, but no
more than 64 digits in all. -/
def Amount.IsSpelled (a : Amount) (j : Json) : Prop :=
  ∃ zeros, zeros + (Text.Hex.minimal a.word.toNat).length ≤ 64 ∧
    Json.SpellsDigits (List.replicate zeros '0' ++ Text.Hex.minimal a.word.toNat) j

/-- A value is a text that stands for bytes. -/
def Bytes.IsSpelled (bs : Bytes) : Json → Prop := Json.SpellsDigits (Text.Hex.ofBytes bs)

theorem Hash.isSpelled_text (h : Hash) : h.IsSpelled (.str h.text) :=
  Json.spellsDigits_marked
    (Text.Hex.map_toLower_eq_self fun _ => Text.Hex.exists_digit_of_mem_fixed)

theorem Address.isSpelled_text (a : Address) : a.IsSpelled (.str a.text) :=
  Json.spellsDigits_marked
    (Text.Hex.map_toLower_eq_self fun _ => Text.Hex.exists_digit_of_mem_fixed)

theorem Amount.isSpelled_hex (a : Amount) : a.IsSpelled (.str a.hex) := by
  have hfits : a.word.toNat < 16 ^ (63 + 1) := a.word.isLt
  refine ⟨0, ?_, ?_⟩
  · rw [Nat.zero_add]
    exact Text.Hex.length_minimal_le hfits
  · exact Json.spellsDigits_marked
      (Text.Hex.map_toLower_eq_self fun _ => Text.Hex.exists_digit_of_mem_minimal)

theorem Bytes.isSpelled_bytes (bs : Bytes) : Bytes.IsSpelled bs (Json.bytes bs) :=
  Json.spellsDigits_marked
    (Text.Hex.map_toLower_eq_self fun _ => Text.Hex.exists_digit_of_mem_ofBytes)

namespace Json

variable {j : Json}

/-- An address is read from whatever stands for it. -/
theorem address?_of_isSpelled {a : Address} (h : a.IsSpelled j) : j.address? = some a := by
  have hfits : a.word.toNat < 16 ^ 40 := a.word.isLt
  have hread := hex?_of_spells h (fun _ => Text.Hex.exists_digit_of_mem_fixed) (· == 40)
    (by rw [Address.digits, Text.Hex.length_fixed]; rfl)
  rw [address?, hread, Address.digits, Text.Hex.toNat?_fixed hfits, Option.map_some,
    BitVec.ofNat_toNat, BitVec.setWidth_eq]

/-- A hash is read from whatever stands for it. -/
theorem hash?_of_isSpelled {h : Hash} (hj : h.IsSpelled j) : j.hash? = some h := by
  have hfits : h.word.toNat < 16 ^ 64 := h.word.isLt
  have hread := hex?_of_spells hj (fun _ => Text.Hex.exists_digit_of_mem_fixed) (· == 64)
    (by rw [Text.Hex.length_fixed]; rfl)
  rw [hash?, hread, Text.Hex.toNat?_fixed hfits, Option.map_some, BitVec.ofNat_toNat,
    BitVec.setWidth_eq]

/-- An amount is read from whatever stands for it. -/
theorem amount?_of_isSpelled {a : Amount} (h : a.IsSpelled j) : j.amount? = some a := by
  obtain ⟨zeros, hle, hj⟩ := h
  have hdigits : ∀ c ∈ List.replicate zeros '0' ++ Text.Hex.minimal a.word.toNat,
      ∃ d, d < 16 ∧ c = Text.Hex.digit d := by
    rw [List.forall_mem_append]
    refine ⟨fun c hc => ⟨0, by decide, List.eq_of_mem_replicate hc⟩, fun _ hc => ?_⟩
    exact Text.Hex.exists_digit_of_mem_minimal hc
  have hpos : 0 < (Text.Hex.minimal a.word.toNat).length :=
    List.length_pos_iff.2 Nat.toDigits_ne_nil
  have hlength : 1 ≤ (List.replicate zeros '0' ++ Text.Hex.minimal a.word.toNat).length ∧
      (List.replicate zeros '0' ++ Text.Hex.minimal a.word.toNat).length ≤ 64 := by
    rw [List.length_append, List.length_replicate]
    omega
  have hread := hex?_of_spells hj hdigits (fun n => 1 ≤ n && n ≤ 64) (by simpa using hlength)
  rw [amount?, hread, Text.Hex.toNat?_zeros_append, Text.Hex.toNat?_minimal, Option.map_some,
    BitVec.ofNat_toNat, BitVec.setWidth_eq]

/-- Bytes are read from whatever stands for them. -/
theorem bytes?_of_isSpelled {bs : Bytes} (h : Bytes.IsSpelled bs j) : j.bytes? = some bs := by
  obtain ⟨s, rfl, hs⟩ := h
  show Text.Hex.toBytes? (Text.Hex.dropMark s.toList) = some bs
  rw [← Text.Hex.toBytes?_map_toLower, hs.dropMark fun _ => Text.Hex.exists_digit_of_mem_ofBytes,
    Text.Hex.toBytes?_ofBytes]

/-- An address is read back from its digits in any case. -/
theorem address?_marked {a : Address} {digits : List Char}
    (h : digits.map Char.toLower = a.digits) :
    address? (.str (Text.Hex.marked digits)) = some a :=
  address?_of_isSpelled (spellsDigits_marked h)

/-- A hash is read back from its text. -/
theorem hash?_text (h : Hash) : hash? (.str h.text) = some h :=
  hash?_of_isSpelled h.isSpelled_text

/-- A byte string is read back from its text. -/
theorem bytes?_prefixed (bs : Bytes) : bytes? (.str (Text.Hex.prefixed bs)) = some bs :=
  bytes?_of_isSpelled (Bytes.isSpelled_bytes bs)

end Json

theorem Hash.text_injective {h h' : Hash} (ht : h.text = h'.text) : h = h' := by
  have hread := Json.hash?_text h'
  rw [← ht, Json.hash?_text h] at hread
  exact Option.some.inj hread

/-- Reads an amount. -/
def Amount.ofText? (s : String) : Option Amount :=
  (Text.readNumeral (2 ^ 256 - 1) s.toList).toOption.map fun n => ⟨BitVec.ofNat 256 n⟩

/-- An amount is read back from its text. -/
theorem Amount.ofText?_text (a : Amount) : ofText? a.text = some a := by
  have hfits : a.word.toNat ≤ 2 ^ 256 - 1 := Nat.le_pred_of_lt a.word.isLt
  rw [ofText?, text, Text.decimal, String.toList_ofList, Text.readNumeral_decimalDigits hfits]
  show some (Amount.mk (BitVec.ofNat 256 a.word.toNat)) = some a
  rw [BitVec.ofNat_toNat, BitVec.setWidth_eq]

theorem Amount.text_injective {a a' : Amount} (ht : a.text = a'.text) : a = a' := by
  have hread := a'.ofText?_text
  rw [← ht, a.ofText?_text] at hread
  exact Option.some.inj hread

end BridgeWatch
