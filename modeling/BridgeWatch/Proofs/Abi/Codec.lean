import BridgeWatch.Abi.Decode
import BridgeWatch.Abi.Encode
import BridgeWatch.Proofs.Text.Utf8
import Mathlib.Data.List.Forall2

/-!
# Encoding and decoding contract data

* `Abi.HasType` says which values a type has; for a number, a byte string or a text it has all.
* `hasTypes_of_decode`: what is decoded are values of the wanted types.
* `decode_encode`: values of the wanted types are decoded from their encoding as they were, whatever
  stands behind it, as long as all offsets and lengths fit in four bytes.

The second statement rests on where the parts of an encoding stand (`StandsAt`): the head words of
the values not yet decoded stand where the decoder is, and their tails stand one behind the other
where these head words point.
-/

namespace BridgeWatch

namespace Bytes

/-- The bytes of a number in front of its last ones are those of a quotient. -/
theorem ofNatural_add (a b n : Nat) :
    ofNatural (a + b) n = ofNatural a (n / Nat.pow 256 b) ++ ofNatural b n := by
  induction b generalizing n with
  | zero => simp [ofNatural]
  | succ b ih =>
    have hpow : 256 * Nat.pow 256 b = Nat.pow 256 (b + 1) := Nat.mul_comm ..
    rw [← Nat.add_assoc, ofNatural, ih, ofNatural, List.append_assoc, Nat.div_div_eq_div_mul, hpow]

theorem ofNatural_zero (size : Nat) : ofNatural size 0 = List.replicate size 0 := by
  induction size with
  | zero => rfl
  | succ size ih =>
    rw [ofNatural, ih, List.replicate_succ']
    rfl

/-- A number that fits in its last bytes has zeros in front of them. -/
theorem ofNatural_of_lt (a : Nat) {b n : Nat} (h : n < Nat.pow 256 b) :
    ofNatural (a + b) n = List.replicate a 0 ++ ofNatural b n := by
  rw [ofNatural_add, Nat.div_eq_of_lt h, ofNatural_zero]

/-- Byte strings are made from their numbers, which fit in as many bytes. -/
theorem natural_lt_and_ofNatural_natural {size : Nat} {bs : Bytes} (h : bs.length = size) :
    natural bs < Nat.pow 256 size ∧ ofNatural size (natural bs) = bs := by
  induction size generalizing bs with
  | zero =>
    rw [List.length_eq_zero_iff.1 h]
    exact ⟨Nat.zero_lt_one, rfl⟩
  | succ size ih =>
    rcases List.eq_nil_or_concat bs with rfl | ⟨front, b, rfl⟩
    · cases h
    · rw [List.concat_eq_append] at *
      have hlength : front.length = size := by simpa using h
      obtain ⟨hlt, hfront⟩ := ih hlength
      have hb := b.toNat_lt
      have hdiv : (natural front * 256 + b.toNat) / 256 = natural front := by omega
      have hmod : (natural front * 256 + b.toNat) % 256 = b.toNat := by omega
      refine ⟨?_, ?_⟩
      · show natural (front ++ [b]) < Nat.pow 256 size * 256
        rw [natural_concat]
        omega
      · rw [natural_concat, ofNatural, hdiv, hmod, hfront, UInt8.ofNat_toNat]

end Bytes

namespace Hash

theorem ofBytes_bytes (h : Hash) : ofBytes h.bytes = h := by
  have hh : h.word.toNat < Nat.pow 256 32 := h.word.isLt
  rw [bytes, ofBytes, Bytes.natural_ofNatural hh, BitVec.ofNat_toNat, BitVec.setWidth_eq]

theorem bytes_ofBytes {bs : Bytes} (h : bs.length = 32) : (ofBytes bs).bytes = bs := by
  obtain ⟨hlt, hbs⟩ := Bytes.natural_lt_and_ofNatural_natural h
  rw [ofBytes, bytes, BitVec.toNat_ofNat, Nat.mod_eq_of_lt hlt, hbs]

@[simp]
theorem length_bytes (h : Hash) : h.bytes.length = 32 := Bytes.length_ofNatural ..

end Hash

namespace Abi

/-- A value is one of a type. -/
inductive HasType : ParamType → Token → Prop
  | address (a : Address) : HasType .address (.address a)
  | uint (bits : Nat) (n : Amount) : HasType (.uint bits) (.uint n)
  | string (cs : List Char) : HasType .string (.string cs)
  | bytes (bs : Bytes) : HasType .bytes (.bytes bs)
  | fixedBytes {size : Nat} {bs : Bytes} (length : bs.length = size) :
      HasType (.fixedBytes size) (.fixedBytes bs)

instance (t : ParamType) (v : Token) : Decidable (HasType t v) :=
  match t, v with
  | .address, .address a => .isTrue (.address a)
  | .uint bits, .uint n => .isTrue (.uint bits n)
  | .string, .string cs => .isTrue (.string cs)
  | .bytes, .bytes bs => .isTrue (.bytes bs)
  | .fixedBytes size, .fixedBytes bs =>
    decidable_of_iff (bs.length = size) ⟨.fixedBytes, fun | .fixedBytes h => h⟩
  | .address, .uint _ | .address, .string _ | .address, .bytes _ | .address, .fixedBytes _
  | .uint _, .address _ | .uint _, .string _ | .uint _, .bytes _ | .uint _, .fixedBytes _
  | .string, .address _ | .string, .uint _ | .string, .bytes _ | .string, .fixedBytes _
  | .bytes, .address _ | .bytes, .uint _ | .bytes, .string _ | .bytes, .fixedBytes _
  | .fixedBytes _, .address _ | .fixedBytes _, .uint _ | .fixedBytes _, .string _
  | .fixedBytes _, .bytes _
  | .bool, _ | .int _, _ | .array _, _ | .fixedArray _ _, _ | .tuple _, _ => .isFalse nofun

/-! ## What is decoded -/

theorem length_of_slice? {data part : Bytes} {offset size : Nat}
    (h : slice? data offset size = some part) : part.length = size := by
  unfold slice? at h
  split at h
  · cases h
    rw [List.length_take, List.length_drop]
    omega
  · cases h

/-- A value that is decoded is one of the wanted type. -/
theorem hasType_of_decodeAt {data : Bytes} {head : Nat} {t : ParamType} {v : Token}
    (h : decodeAt data head t = some v) : HasType t v := by
  unfold decodeAt at h
  split at h
  · obtain ⟨w, -, rfl⟩ := Option.map_eq_some_iff.1 h
    exact .address _
  · obtain ⟨w, -, rfl⟩ := Option.map_eq_some_iff.1 h
    exact .uint _ _
  · obtain ⟨bs, hbs, rfl⟩ := Option.map_eq_some_iff.1 h
    exact .fixedBytes (length_of_slice? hbs)
  · obtain ⟨bs, -, rfl⟩ := Option.map_eq_some_iff.1 h
    exact .bytes _
  · obtain ⟨bs, -, rfl⟩ := Option.map_eq_some_iff.1 h
    exact .string _
  · cases h

theorem hasTypes_of_decodeFrom {data : Bytes} {head : Nat} {types : List ParamType}
    {values : List Token} (h : decodeFrom data head types = some values) :
    List.Forall₂ HasType types values := by
  induction types generalizing head values with
  | nil =>
    cases h
    exact .nil
  | cons t types ih =>
    obtain ⟨v, hv, h⟩ := Option.bind_eq_some_iff.1 h
    obtain ⟨vs, hvs, rfl⟩ := Option.map_eq_some_iff.1 h
    exact .cons (hasType_of_decodeAt hv) (ih hvs)

/-- **What is decoded are values of the wanted types**, one for each. -/
theorem hasTypes_of_decode {types : List ParamType} {data : Bytes} {values : List Token}
    (h : decode types data = .ok values) : List.Forall₂ HasType types values := by
  unfold decode at h
  split at h
  · cases h
  · split at h
    · rename_i hvalues
      cases h
      exact hasTypes_of_decodeFrom hvalues
    · cases h

/-! ## Parts of data -/

/-- A part stands in the data at an offset. -/
def StandsAt (data : Bytes) (offset : Nat) (part : Bytes) : Prop := part <+: data.drop offset

theorem standsAt_append {data a b : Bytes} {offset : Nat} :
    StandsAt data offset (a ++ b) ↔
      StandsAt data offset a ∧ StandsAt data (offset + a.length) b := by
  unfold StandsAt
  rw [← List.drop_drop]
  constructor
  · rintro ⟨rest, h⟩
    rw [← h, List.append_assoc, List.drop_left]
    exact ⟨List.prefix_append .., List.prefix_append ..⟩
  · rintro ⟨⟨rest, h⟩, hb⟩
    rw [← h, List.drop_left] at hb
    rw [← h]
    exact (List.prefix_append_right_inj a).2 hb

namespace StandsAt

variable {data part : Bytes} {offset : Nat}

theorem le_length (h : StandsAt data offset part) (ho : offset ≤ data.length) :
    offset + part.length ≤ data.length := by
  have hl := h.length_le
  rw [List.length_drop] at hl
  omega

/-- A part that stands in the data is what is read there. -/
theorem slice? (h : StandsAt data offset part) (ho : offset ≤ data.length) :
    slice? data offset part.length = some part := by
  rw [Abi.slice?, if_pos (h.le_length ho), ← List.prefix_iff_eq_take.1 h]

theorem word? (h : StandsAt data offset part) (ho : offset ≤ data.length)
    (hl : part.length = 32) : word? data offset = some part := by
  rw [Abi.word?, ← hl]
  exact h.slice? ho

end StandsAt

/-! ## Words -/

@[simp]
theorem length_numberWord (n : Nat) : (numberWord n).length = 32 := Bytes.length_ofNatural ..

/-- A number that fits in the last bytes of a word has zeros in front of them. -/
theorem numberWord_of_lt {zeros size n : Nat} (hsize : zeros + size = 32)
    (h : n < Nat.pow 256 size) :
    numberWord n = List.replicate zeros 0 ++ Bytes.ofNatural size n := by
  rw [numberWord, ← hsize, Bytes.ofNatural_of_lt zeros h]

/-- A number of four bytes can be read as an offset or length. -/
theorem small?_numberWord {n : Nat} (h : n < UInt32.size) : small? (numberWord n) = some n := by
  have hn : n < Nat.pow 256 4 := h
  have hw := numberWord_of_lt (show 28 + 4 = 32 from rfl) hn
  have hz : ((numberWord n).take 28).all (· == 0) = true := by
    rw [hw, List.take_left' List.length_replicate]
    decide
  rw [small?, if_pos hz, hw, List.drop_left' List.length_replicate, Bytes.natural_ofNatural hn]

theorem ofBytes_drop_numberWord (a : Address) :
    Address.ofBytes ((numberWord a.word.toNat).drop 12) = a := by
  have ha : a.word.toNat < Nat.pow 256 20 := a.word.isLt
  rw [numberWord_of_lt (show 12 + 20 = 32 from rfl) ha, List.drop_left' List.length_replicate,
    Address.ofBytes, Bytes.natural_ofNatural ha, BitVec.ofNat_toNat, BitVec.setWidth_eq]

theorem ofBytes_numberWord (n : Amount) : Amount.ofBytes (numberWord n.word.toNat) = n := by
  have hn : n.word.toNat < Nat.pow 256 32 := n.word.isLt
  rw [numberWord, Amount.ofBytes, Bytes.natural_ofNatural hn, BitVec.ofNat_toNat,
    BitVec.setWidth_eq]

/-! ## What is encoded -/

/-- Byte strings of fixed size are not empty and fit in one word. -/
def ParamType.IsWordSized : ParamType → Prop
  | .fixedBytes size => 0 < size ∧ size ≤ 32
  | _ => True

/-- The head word of an encoded value. -/
def Encoded.head (offset : Nat) : Encoded → Bytes
  | .static word => word
  | .dynamic _ => numberWord offset

theorem heads_cons (offset : Nat) (e : Encoded) (es : List Encoded) :
    heads offset (e :: es) = e.head offset ++ heads (offset + e.tail.length) es := by
  cases e <;> rfl

theorem length_head_encoded {t : ParamType} {v : Token} (hv : HasType t v) (ht : t.IsWordSized)
    (offset : Nat) : ((encoded v).head offset).length = 32 := by
  cases hv with
  | address | uint | string | bytes => exact length_numberWord _
  | @fixedBytes size bs length =>
    have hsize : 0 < bs.length ∧ bs.length ≤ 32 := length ▸ ht
    simp only [encoded, Encoded.head, padded, List.length_append, List.length_replicate]
    omega

/-- A value has one head word. -/
theorem length_heads {types : List ParamType} {values : List Token}
    (hvalues : List.Forall₂ HasType types values) (htypes : ∀ t ∈ types, t.IsWordSized)
    (offset : Nat) : (heads offset (values.map encoded)).length = 32 * values.length := by
  induction hvalues generalizing offset with
  | nil => rfl
  | cons hv hvalues ih =>
    rw [List.forall_mem_cons] at htypes
    rw [List.map_cons, heads_cons, List.length_append, length_head_encoded hv htypes.1,
      ih htypes.2, List.length_cons]
    omega

/-- A byte string is read where its head word points. -/
theorem tail?_eq {data bs : Bytes} {head offset : Nat}
    (hh : StandsAt data head (numberWord offset)) (hhead : head ≤ data.length)
    (ht : StandsAt data offset (tailOf bs)) (hlen : offset + (tailOf bs).length ≤ data.length)
    (hshort : data.length < UInt32.size) : tail? data head = some bs := by
  have hl : (tailOf bs).length = 32 + (padded bs).length := by simp [tailOf]
  have hb : bs.length ≤ (padded bs).length := by simp [padded]
  obtain ⟨hlength, hpadded⟩ := standsAt_append.1 ht
  rw [length_numberWord] at hpadded
  have hbs : StandsAt data (offset + 32) bs := (standsAt_append.1 hpadded).1
  rw [tail?, hh.word? hhead (length_numberWord _), Option.bind_some,
    small?_numberWord (by omega), Option.bind_some,
    hlength.word? (by omega) (length_numberWord _), Option.bind_some,
    small?_numberWord (by omega), Option.bind_some, hbs.slice? (by omega)]

/-- A value is read where its head word stands, if its tail stands where that points. -/
theorem decodeAt_eq {data : Bytes} {head offset : Nat} {t : ParamType} {v : Token}
    (hv : HasType t v) (hh : StandsAt data head ((encoded v).head offset))
    (hhead : head ≤ data.length) (htail : StandsAt data offset (encoded v).tail)
    (hlen : offset + (encoded v).tail.length ≤ data.length) (hshort : data.length < UInt32.size) :
    decodeAt data head t = some v := by
  cases hv with
  | address a =>
    have hword : word? data head = some (numberWord a.word.toNat) :=
      hh.word? hhead (length_numberWord _)
    rw [decodeAt, hword, Option.map_some, ofBytes_drop_numberWord]
  | uint bits n =>
    have hword : word? data head = some (numberWord n.word.toNat) :=
      hh.word? hhead (length_numberWord _)
    rw [decodeAt, hword, Option.map_some, ofBytes_numberWord]
  | string cs =>
    rw [decodeAt, tail?_eq hh hhead htail hlen hshort, Option.map_some,
      Text.Utf8.decodeLossy_encode]
  | bytes bs => rw [decodeAt, tail?_eq hh hhead htail hlen hshort, Option.map_some]
  | @fixedBytes size bs length =>
    have hbs : StandsAt data head bs := (standsAt_append.1 hh).1
    rw [decodeAt, ← length, hbs.slice? hhead, Option.map_some]

/-- The values are read whose head words stand at an offset and whose tails stand at another. -/
theorem decodeFrom_eq {data : Bytes} {head offset : Nat} {types : List ParamType}
    {values : List Token} (hvalues : List.Forall₂ HasType types values)
    (htypes : ∀ t ∈ types, t.IsWordSized)
    (hheads : StandsAt data head (heads offset (values.map encoded)))
    (hhead : head ≤ data.length)
    (htails : StandsAt data offset ((values.map encoded).map Encoded.tail).flatten)
    (hlen : offset + (((values.map encoded).map Encoded.tail).flatten).length ≤ data.length)
    (hshort : data.length < UInt32.size) : decodeFrom data head types = some values := by
  induction hvalues generalizing head offset with
  | nil => rfl
  | @cons t v types values hv hvalues ih =>
    rw [List.forall_mem_cons] at htypes
    simp only [List.map_cons, List.flatten_cons, List.length_append, heads_cons] at *
    obtain ⟨hh, hheads⟩ := standsAt_append.1 hheads
    obtain ⟨ht, htails⟩ := standsAt_append.1 htails
    have hl := length_head_encoded hv htypes.1 offset
    have hle := hh.le_length hhead
    rw [hl] at hheads hle
    rw [decodeFrom, decodeAt_eq hv hh hhead ht (by omega) hshort, Option.bind_some,
      ih htypes.2 hheads hle htails (by omega), Option.map_some]

/-- **Encoded values are decoded as they were**, whatever stands behind them. -/
theorem decode_encode {types : List ParamType} {values : List Token}
    (hvalues : List.Forall₂ HasType types values) (htypes : ∀ t ∈ types, t.IsWordSized)
    (rest : Bytes) (hshort : (encode values ++ rest).length < UInt32.size) :
    decode types (encode values ++ rest) = .ok values := by
  have hheads := length_heads hvalues htypes (32 * values.length)
  have hencode : encode values = heads (32 * values.length) (values.map encoded) ++
      ((values.map encoded).map Encoded.tail).flatten := by
    rw [encode, List.length_map]
  have hlength : (encode values ++ rest).length = 32 * values.length +
      ((values.map encoded).map Encoded.tail).flatten.length + rest.length := by
    rw [List.length_append, hencode, List.length_append, hheads]
  have hsome : ¬(encode values ++ rest = [] ∧ types ≠ []) := by
    rintro ⟨hnil, hne⟩
    rw [hnil, List.length_nil] at hlength
    cases hvalues with
    | nil => exact hne rfl
    | cons =>
      rw [List.length_cons] at hlength
      omega
  have hstands : StandsAt (encode values ++ rest) 0
      (heads (32 * values.length) (values.map encoded) ++
        ((values.map encoded).map Encoded.tail).flatten) := by
    rw [← hencode]
    exact List.prefix_append ..
  obtain ⟨hhead, htail⟩ := standsAt_append.1 hstands
  rw [hheads, Nat.zero_add] at htail
  rw [decode, if_neg hsome,
    decodeFrom_eq hvalues htypes hhead (Nat.zero_le _) htail (by omega) hshort]

end Abi

end BridgeWatch
