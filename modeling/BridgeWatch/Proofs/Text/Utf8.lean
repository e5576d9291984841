import BridgeWatch.Text.Utf8

/-!
# UTF-8 round trip

`decodeLossy_encode`: a text written as UTF-8 is read back as it was, so the reader puts replacement
characters only where bytes are no text, and different texts have different UTF-8
(`encode_injective`). The reader is followed byte by byte: the first byte of a
character (`decodeFrom_two`, `_three`, `_four`), a byte in its middle and its last one.
-/

namespace BridgeWatch.Text.Utf8

variable {n : Nat} (bs : Bytes)

/-- A character of one byte. -/
theorem decodeFrom_one (h : n < 0x80) :
    decodeFrom none (UInt8.ofNat n :: bs) = Char.ofNat n :: decodeFrom none bs := by
  have hn : (UInt8.ofNat n).toNat = n := UInt8.toNat_ofNat_of_lt' (show n < 256 by omega)
  simp only [decodeFrom, start, hn, h, if_true, List.singleton_append]

/-- The first byte of a character of two bytes. -/
theorem decodeFrom_two (h : 0xC2 ≤ n) (h' : n < 0xE0) :
    decodeFrom none (UInt8.ofNat n :: bs) = decodeFrom (some ⟨1, 0x80, 0xBF, n - 0xC0⟩) bs := by
  have hn : (UInt8.ofNat n).toNat = n := UInt8.toNat_ofNat_of_lt' (show n < 256 by omega)
  have h₁ : ¬n < 0x80 := by omega
  have h₂ : ¬n < 0xC2 := by omega
  simp only [decodeFrom, start, hn, h₁, h₂, h', if_true, if_false, List.nil_append]

/-- The first byte of a character of three bytes. -/
theorem decodeFrom_three (h : 0xE0 ≤ n) (h' : n < 0xF0) :
    decodeFrom none (UInt8.ofNat n :: bs) =
      decodeFrom (some ⟨2, if n = 0xE0 then 0xA0 else 0x80, if n = 0xED then 0x9F else 0xBF,
        n - 0xE0⟩) bs := by
  have hn : (UInt8.ofNat n).toNat = n := UInt8.toNat_ofNat_of_lt' (show n < 256 by omega)
  have h₁ : ¬n < 0x80 := by omega
  have h₂ : ¬n < 0xC2 := by omega
  have h₃ : ¬n < 0xE0 := by omega
  simp only [decodeFrom, start, hn, h₁, h₂, h₃, h', if_true, if_false, List.nil_append]

/-- The first byte of a character of four bytes. -/
theorem decodeFrom_four (h : 0xF0 ≤ n) (h' : n < 0xF5) :
    decodeFrom none (UInt8.ofNat n :: bs) =
      decodeFrom (some ⟨3, if n = 0xF0 then 0x90 else 0x80, if n = 0xF4 then 0x8F else 0xBF,
        n - 0xF0⟩) bs := by
  have hn : (UInt8.ofNat n).toNat = n := UInt8.toNat_ofNat_of_lt' (show n < 256 by omega)
  have h₁ : ¬n < 0x80 := by omega
  have h₂ : ¬n < 0xC2 := by omega
  have h₃ : ¬n < 0xE0 := by omega
  have h₄ : ¬n < 0xF0 := by omega
  simp only [decodeFrom, start, hn, h₁, h₂, h₃, h₄, h', if_true, if_false, List.nil_append]

variable {least greatest bits : Nat}

/-- A byte of a character that is neither its first nor its last. -/
theorem decodeFrom_inner (missing : Nat) (hl : least ≤ n) (hg : n ≤ greatest) (hn : n < 256) :
    decodeFrom (some ⟨missing + 2, least, greatest, bits⟩) (UInt8.ofNat n :: bs) =
      decodeFrom (some ⟨missing + 1, 0x80, 0xBF, bits * 64 + (n - 0x80)⟩) bs := by
  have hn : (UInt8.ofNat n).toNat = n := UInt8.toNat_ofNat_of_lt' hn
  have hm : ¬missing + 2 ≤ 1 := by omega
  simp only [decodeFrom, proceed, hn, hl, hg, and_self, if_true, hm, if_false, List.nil_append]
  rfl

/-- The last byte of a character. -/
theorem decodeFrom_last (hl : least ≤ n) (hg : n ≤ greatest) (hn : n < 256) :
    decodeFrom (some ⟨1, least, greatest, bits⟩) (UInt8.ofNat n :: bs) =
      Char.ofNat (bits * 64 + (n - 0x80)) :: decodeFrom none bs := by
  have hn : (UInt8.ofNat n).toNat = n := UInt8.toNat_ofNat_of_lt' hn
  simp only [decodeFrom, proceed, hn, hl, hg, and_self, if_true, Nat.le_refl,
    List.singleton_append]

/-- A character is read back. The cases are the numbers of bytes it is written in. -/
theorem decodeFrom_encodeChar (c : Char) :
    decodeFrom none (String.utf8EncodeChar c ++ bs) = c :: decodeFrom none bs := by
  have hc : Char.ofNat c.val.toNat = c := Char.ofNat_toNat c
  have hv : c.val.toNat < 0xD800 ∨ 0xDFFF < c.val.toNat ∧ c.val.toNat < 0x110000 := c.valid
  unfold String.utf8EncodeChar
  generalize c.val.toNat = n at hc hv
  dsimp only
  split
  · rw [List.singleton_append, decodeFrom_one _ (by omega), hc]
  · split
    · have hbits : (n / 64 % 32 + 192 - 0xC0) * 64 + (n % 64 + 128 - 0x80) = n := by omega
      simp only [List.cons_append, List.nil_append]
      rw [decodeFrom_two _ (by omega) (by omega),
        decodeFrom_last _ (by omega) (by omega) (by omega), hbits, hc]
    · split
      · have hbits : ((n / 4096 % 16 + 224 - 0xE0) * 64 + (n / 64 % 64 + 128 - 0x80)) * 64 +
            (n % 64 + 128 - 0x80) = n := by omega
        simp only [List.cons_append, List.nil_append]
        -- the second byte is in its bounds, for the number is above 0x7FF and no surrogate
        rw [decodeFrom_three _ (by omega) (by omega),
          decodeFrom_inner _ 0 (by split <;> omega) (by split <;> omega) (by omega),
          decodeFrom_last _ (by omega) (by omega) (by omega), hbits, hc]
      · have hbits : (((n / 262144 % 8 + 240 - 0xF0) * 64 + (n / 4096 % 64 + 128 - 0x80)) * 64 +
            (n / 64 % 64 + 128 - 0x80)) * 64 + (n % 64 + 128 - 0x80) = n := by omega
        simp only [List.cons_append, List.nil_append]
        -- and here, for it is above 0xFFFF and below 0x110000
        rw [decodeFrom_four _ (by omega) (by omega),
          decodeFrom_inner _ 1 (by split <;> omega) (by split <;> omega) (by omega),
          decodeFrom_inner _ 0 (by omega) (by omega) (by omega),
          decodeFrom_last _ (by omega) (by omega) (by omega), hbits, hc]

/-- **A text is read back from its UTF-8.** -/
theorem decodeLossy_encode (cs : List Char) : decodeLossy (encode cs) = cs := by
  unfold decodeLossy encode
  induction cs with
  | nil => rfl
  | cons c cs ih => rw [List.flatMap_cons, decodeFrom_encodeChar, ih]

theorem encode_sublist {cs ds : List Char} (h : cs.Sublist ds) :
    (encode cs).Sublist (encode ds) := by
  induction h with
  | slnil => exact .slnil
  | cons c _ ih => exact ih.trans (List.sublist_append_right _ _)
  | cons_cons c _ ih => exact ih.append_left _

/-- Different texts have different UTF-8. -/
theorem encode_injective {cs ds : List Char} (h : encode cs = encode ds) : cs = ds := by
  rw [← decodeLossy_encode cs, h, decodeLossy_encode]

end BridgeWatch.Text.Utf8
