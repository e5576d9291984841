import BridgeWatch.Abi.TypeName
import BridgeWatch.Proofs.Text.Decimal
import BridgeWatch.Schema.Field

/-!
# Names of types, real and misread

Contracts name the types of their parameters in one way (`Denotes`). The reader of type names is
more lenient: a width is any numeral, and a name that it does not know stands for `uint8`
(`Misnames`).

* `read_eq_ok_iff`: a name is read as a type that can carry a field exactly when it denotes the type
  or misnames it.
* `not_misnames_of_denotes`: no name does both.
-/

namespace BridgeWatch.Abi

/-! ## The names of a contract -/

/-- A width of unsigned integers. -/
structure IsWidth (bits : Nat) : Prop where
  dvd : 8 ∣ bits
  ge : 8 ≤ bits
  le : bits ≤ 256

/-- A contract can name a type that carries a field so. -/
inductive Denotes : List Char → ParamType → Prop
  | address : Denotes "address".toList .address
  | string : Denotes "string".toList .string
  | bytes : Denotes "bytes".toList .bytes
  | bytes32 : Denotes "bytes32".toList (.fixedBytes 32)
  | uint : Denotes "uint".toList (.uint 256)
  | sized {bits : Nat} (h : IsWidth bits) :
      Denotes ("uint".toList ++ Text.decimalDigits bits) (.uint bits)

/-- A name that stands for nothing in particular: it belongs to no family of types, is no other name
of a type, and has the form of neither a tuple nor an array. -/
structure IsUnknown (name : List Char) : Prop where
  elementary : name ∉ ["address".toList, "bool".toList, "string".toList, "tuple".toList]
  family : ∀ start ∈ ["int".toList, "uint".toList, "bytes".toList], ¬start <+: name
  plain : ∀ last ∈ [')', ']'], name.getLast? ≠ some last

/-- A name that no contract has for the type is read as the type. -/
inductive Misnames : List Char → ParamType → Prop
  /-- No type has the width, or the numeral is not the one that is written. -/
  | uint {bits : Nat} {numeral : List Char} (spells : Text.Spells bits numeral)
      (fits : bits ≤ Text.maxWord64)
      (bad : ¬(numeral = Text.decimalDigits bits ∧ IsWidth bits)) :
      Misnames ("uint".toList ++ numeral) (.uint bits)
  /-- The numeral is not the one that is written. -/
  | bytes32 {numeral : List Char} (spells : Text.Spells 32 numeral)
      (bad : numeral ≠ Text.decimalDigits 32) :
      Misnames ("bytes".toList ++ numeral) (.fixedBytes 32)
  /-- Nobody knows the name. -/
  | unknown {name : List Char} (h : IsUnknown name) : Misnames name (.uint 8)

/-! ## The reader -/

variable {name numeral : List Char} {f : Field} {t : ParamType}

/-- A name that has the form of neither a tuple nor an array is read as it stands. -/
theorem read_of_plain (plain : ∀ last ∈ [')', ']'], name.getLast? ≠ some last) :
    ParamType.read name = readElementary name := by
  simp only [List.forall_mem_cons, List.not_mem_nil, false_implies, implies_true,
    and_true] at plain
  rw [ParamType.read, readWithin]
  split
  · rename_i h
    exact absurd h plain.1
  · rename_i h
    exact absurd h plain.2
  · rfl

/-- A name that is read as a type that can carry a field has the form of neither a tuple nor an
array. -/
theorem plain_of_read (ha : f.accepts t = true) (h : ParamType.read name = .ok t) :
    ∀ last ∈ [')', ']'], name.getLast? ≠ some last := by
  rw [ParamType.read, readWithin] at h
  simp only [List.forall_mem_cons, List.not_mem_nil, false_implies, implies_true, and_true]
  split at h
  · -- a tuple carries no field
    split at h
    · dsimp only at h
      split at h
      · cases h
        cases f <;> cases ha
      · cases h
    · cases h
  · -- nor does an array
    dsimp only at h
    split at h
    · split at h
      · cases h
        cases f <;> cases ha
      · cases h
    · split at h
      · cases h
      · split at h
        · cases h
          cases f <;> cases ha
        · cases h
  · rename_i h₁ h₂
    exact ⟨h₁, h₂⟩

theorem readWidth_eq_ok_iff {family : Nat → ParamType} :
    readWidth family numeral = .ok t ↔
      ∃ n, n ≤ Text.maxWord64 ∧ Text.Spells n numeral ∧ t = family n := by
  unfold readWidth readSize
  constructor
  · intro h
    cases hr : Text.readNumeral Text.maxWord64 numeral with
    | error cause =>
      rw [hr] at h
      cases h
    | ok n =>
      rw [hr] at h
      cases h
      obtain ⟨hle, hspells⟩ := Text.readNumeral_eq_ok_iff.1 hr
      exact ⟨n, hle, hspells, rfl⟩
  · rintro ⟨n, hle, hspells, rfl⟩
    rw [Text.readNumeral_eq_ok_iff.2 ⟨hle, hspells⟩]

/-- A name in the family of unsigned integers is read by its width. -/
theorem readElementary_uint (hne : numeral ≠ []) :
    readElementary ("uint".toList ++ numeral) = readWidth .uint numeral := by
  simp [readElementary, Text.dropStart?, hne]

/-- A name in the family of byte strings is read by its size. -/
theorem readElementary_bytes (hne : numeral ≠ []) :
    readElementary ("bytes".toList ++ numeral) = readWidth .fixedBytes numeral := by
  simp [readElementary, Text.dropStart?, hne]

theorem readElementary_unknown (h : IsUnknown name) : readElementary name = .ok (.uint 8) := by
  obtain ⟨helem, hfamily, -⟩ := h
  have hself : ∀ start ∈ ["int".toList, "uint".toList, "bytes".toList], name ≠ start := by
    rintro start hs rfl
    exact hfamily name hs (List.prefix_refl name)
  simp only [List.mem_cons, List.not_mem_nil, or_false, not_or] at helem
  simp only [List.forall_mem_cons, List.not_mem_nil, false_implies, implies_true,
    and_true, ← Text.dropStart?_eq_none_iff] at hfamily hself
  simp only [readElementary, helem, hself, hfamily, if_false]

/-! ## What is read as a type that can carry a field -/

theorem getLast?_append_numeral {n : Nat} (h : Text.Spells n numeral) (start : List Char) :
    ∀ last ∈ [')', ']'], (start ++ numeral).getLast? ≠ some last := by
  have hdigit : ∃ c, numeral.getLast? = some c ∧ c.isDigit = true := by
    have hlast := List.getLast?_eq_some_getLast (Text.decimalDigits_ne_nil n)
    refine ⟨_, ?_, Text.isDigit_of_mem_decimalDigits (List.getLast_mem
      (Text.decimalDigits_ne_nil n))⟩
    obtain ⟨zeros, rfl | rfl⟩ := h
    · rw [List.getLast?_append, hlast]
      rfl
    · rw [← List.cons_append, List.getLast?_append, hlast]
      rfl
  obtain ⟨c, hc, hd⟩ := hdigit
  intro last hl heq
  rw [List.getLast?_append, hc] at heq
  obtain rfl : c = last := Option.some.inj heq
  simp only [List.mem_cons, List.not_mem_nil, or_false] at hl
  rcases hl with rfl | rfl <;> cases hd

theorem ne_nil_of_spells {n : Nat} (h : Text.Spells n numeral) : numeral ≠ [] := by
  obtain ⟨zeros, rfl | rfl⟩ := h
  · simp [Text.decimalDigits_ne_nil]
  · simp

theorem read_uint {bits : Nat} (h : Text.Spells bits numeral) (fits : bits ≤ Text.maxWord64) :
    ParamType.read ("uint".toList ++ numeral) = .ok (.uint bits) := by
  rw [read_of_plain (getLast?_append_numeral h _), readElementary_uint (ne_nil_of_spells h)]
  exact readWidth_eq_ok_iff.2 ⟨bits, fits, h, rfl⟩

theorem read_bytes {size : Nat} (h : Text.Spells size numeral) (fits : size ≤ Text.maxWord64) :
    ParamType.read ("bytes".toList ++ numeral) = .ok (.fixedBytes size) := by
  rw [read_of_plain (getLast?_append_numeral h _), readElementary_bytes (ne_nil_of_spells h)]
  exact readWidth_eq_ok_iff.2 ⟨size, fits, h, rfl⟩

/-- A name of a contract is read as what it denotes. -/
theorem Denotes.read (h : Denotes name t) : ParamType.read name = .ok t := by
  cases h with
  | address | string | bytes | uint => rfl
  | bytes32 => exact read_bytes (Text.spells_decimalDigits 32) (by decide)
  | @sized bits h =>
    have fits : bits ≤ Text.maxWord64 := Nat.le_trans h.le (by decide)
    exact read_uint (Text.spells_decimalDigits _) fits

theorem Misnames.read (h : Misnames name t) : ParamType.read name = .ok t := by
  cases h with
  | uint spells fits => exact read_uint spells fits
  | bytes32 spells => exact read_bytes spells (by decide)
  | unknown h => rw [read_of_plain h.plain, readElementary_unknown h]

/-- A name in the family of unsigned integers denotes or misnames what its width is read as. -/
theorem denotes_or_misnames_of_readWidth_uint (h : readWidth .uint numeral = .ok t) :
    Denotes ("uint".toList ++ numeral) t ∨ Misnames ("uint".toList ++ numeral) t := by
  obtain ⟨bits, fits, spells, rfl⟩ := readWidth_eq_ok_iff.1 h
  by_cases good : numeral = Text.decimalDigits bits ∧ IsWidth bits
  · obtain ⟨rfl, hw⟩ := good
    exact .inl (.sized hw)
  · exact .inr (.uint spells fits good)

/-- So does a name in the family of byte strings, of which the fields take one. -/
theorem denotes_or_misnames_of_readWidth_bytes (ha : f.accepts t = true)
    (h : readWidth .fixedBytes numeral = .ok t) :
    Denotes ("bytes".toList ++ numeral) t ∨ Misnames ("bytes".toList ++ numeral) t := by
  obtain ⟨size, -, spells, rfl⟩ := readWidth_eq_ok_iff.1 h
  cases f with
  | hash =>
    obtain rfl : size = 32 := by simpa [Field.accepts] using ha
    by_cases good : numeral = Text.decimalDigits 32
    · rw [good]
      exact .inl .bytes32
    · exact .inr (.bytes32 spells good)
  | sender | recipient | amount | chainRef | message => cases ha

/-- The converse: what is read as a type that can carry a field. The cases are the steps in which
the reader tries its names. -/
theorem denotes_or_misnames_of_read (ha : f.accepts t = true)
    (h : ParamType.read name = .ok t) : Denotes name t ∨ Misnames name t := by
  have plain := plain_of_read ha h
  rw [read_of_plain plain, readElementary] at h
  split at h
  · rename_i hname
    cases h
    rw [hname]
    exact .inl .address
  rename_i hne_address
  split at h
  · rename_i hname
    cases h
    rw [hname]
    exact .inl .bytes
  split at h
  · cases h
    cases f <;> cases ha
  rename_i hne_bool
  split at h
  · rename_i hname
    cases h
    rw [hname]
    exact .inl .string
  rename_i hne_string
  split at h
  · cases h
    cases f <;> cases ha
  split at h
  · rename_i hname
    cases h
    rw [hname]
    exact .inl .uint
  split at h
  · cases h
    cases f <;> cases ha
  rename_i hne_tuple
  split at h
  · obtain ⟨n, -, -, rfl⟩ := readWidth_eq_ok_iff.1 h
    cases f <;> cases ha
  rename_i hint
  split at h
  · rename_i numeral hn
    rw [Text.dropStart?_eq_some_iff.1 hn]
    exact denotes_or_misnames_of_readWidth_uint h
  rename_i huint
  split at h
  · rename_i numeral hn
    rw [Text.dropStart?_eq_some_iff.1 hn]
    exact denotes_or_misnames_of_readWidth_bytes ha h
  rename_i hbytes
  cases h
  refine .inr (.unknown ⟨?_, ?_, plain⟩)
  · simp only [List.mem_cons, List.not_mem_nil, or_false, not_or]
    exact ⟨hne_address, hne_bool, hne_string, hne_tuple⟩
  · simp only [List.forall_mem_cons, List.not_mem_nil, false_implies, implies_true, and_true,
      ← Text.dropStart?_eq_none_iff]
    exact ⟨hint, huint, hbytes⟩

/-- **A name is read as a type that can carry a field exactly when it denotes or misnames the
type.** -/
theorem read_eq_ok_iff (ha : f.accepts t = true) :
    ParamType.read name = .ok t ↔ Denotes name t ∨ Misnames name t :=
  ⟨denotes_or_misnames_of_read ha, fun h => h.elim Denotes.read Misnames.read⟩

/-- **No name of a type misnames it.** -/
theorem not_misnames_of_denotes (h : Denotes name t) : ¬Misnames name t := by
  intro hm
  cases hm with
  | @uint bits numeral spells fits bad =>
    generalize hw : "uint".toList ++ numeral = word at h
    cases h with
    | uint => exact ne_nil_of_spells spells (List.append_right_eq_self.1 hw)
    | sized hwidth => exact bad ⟨List.append_cancel_left hw, hwidth⟩
  | @bytes32 numeral spells bad =>
    generalize hw : "bytes".toList ++ numeral = word at h
    cases h with
    | bytes32 =>
      have hnumeral : "bytes".toList ++ numeral = "bytes".toList ++ Text.decimalDigits 32 := hw
      exact bad (List.append_cancel_left hnumeral)
  | unknown hunknown =>
    have hno : ¬"uint".toList <+: name := hunknown.family _ (by simp)
    generalize ht : ParamType.uint 8 = type at h
    cases h with
    | sized hwidth => exact hno (List.prefix_append ..)
    | address | string | bytes | bytes32 | uint => cases ht

end BridgeWatch.Abi
