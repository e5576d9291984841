import BridgeWatch.Json.Reader
import BridgeWatch.Json.Writer
import BridgeWatch.Proofs.Text.Decimal
import BridgeWatch.Proofs.Text.Hex
import Mathlib.Data.List.TakeDrop

/-!
# Values read back from their texts

* `readString_quoted`: a string is read back from between its quotation marks, whatever it holds.
* `readNumber_decimalDigits`: so is the number of an integer from its digits.
* `parse_compact`: a value is read back from its text, if it nests no deeper than the reader goes,
  its integers have 64 bits and there is no double in it (`IsPlain`).
* `memberText?_compact`: the text of a member is found in the text of its object.
-/

namespace BridgeWatch.Json

variable {budget depth : Nat} {rest : List Char}

/-! ## Strings -/

theorem readUnit_fixed {n : Nat} (h : n < 16 ^ 4) (rest : List Char) :
    readUnit (Text.Hex.fixed 4 n ++ rest) = .ok (n, rest) := by
  have hread := Text.Hex.toNat?_fixed h
  simp only [Text.Hex.fixed, List.nil_append, List.cons_append] at hread ⊢
  rw [readUnit, hread]

/-- A character stands for itself inside a string, or it is escaped and read back. -/
theorem escaped_cases (c : Char) :
    (escaped c = [c] ∧ c ≠ '"' ∧ c ≠ '\\' ∧ ¬c.toNat < 0x20) ∨
      ∃ es, escaped c = '\\' :: es ∧ ∀ rest, readEscape (es ++ rest) = .ok (c, rest) := by
  have hcode {n : Nat} (h : c.toNat = n) : Char.ofNat n = c := by rw [← h, Char.ofNat_toNat]
  unfold escaped
  by_cases hquote : c = '"'
  · exact .inr ⟨['"'], by rw [if_pos hquote], fun rest => by rw [hquote]; rfl⟩
  by_cases hback : c = '\\'
  · exact .inr ⟨['\\'], by rw [if_neg hquote, if_pos hback], fun rest => by rw [hback]; rfl⟩
  rw [if_neg hquote, if_neg hback]
  by_cases hn : c = '\n'
  · exact .inr ⟨['n'], by rw [if_pos hn], fun rest => by rw [hn]; rfl⟩
  by_cases hr : c = '\r'
  · exact .inr ⟨['r'], by rw [if_neg hn, if_pos hr], fun rest => by rw [hr]; rfl⟩
  by_cases ht : c = '\t'
  · exact .inr ⟨['t'], by rw [if_neg hn, if_neg hr, if_pos ht], fun rest => by rw [ht]; rfl⟩
  rw [if_neg hn, if_neg hr, if_neg ht]
  by_cases h8 : c.toNat = 8
  · exact .inr ⟨['b'], if_pos h8, fun rest => by rw [← hcode h8]; rfl⟩
  by_cases h12 : c.toNat = 12
  · refine .inr ⟨['f'], ?_, fun rest => by rw [← hcode h12]; rfl⟩
    show (if c.toNat = 8 then _ else _) = _
    rw [if_neg h8, if_pos h12]
  by_cases hcontrol : c.toNat < 0x20
  · refine .inr ⟨'u' :: Text.Hex.fixed 4 c.toNat, ?_, fun rest => ?_⟩
    · show (if c.toNat = 8 then _ else _) = _
      rw [if_neg h8, if_neg h12, if_pos hcontrol]
    · rw [List.cons_append, readEscape, readUnits, readUnit_fixed (by omega)]
      show (if _ then _ else _) = _
      rw [if_neg (by omega), if_neg (by omega), Char.ofNat_toNat]
  · refine .inl ⟨?_, hquote, hback, hcontrol⟩
    show (if c.toNat = 8 then _ else _) = _
    rw [if_neg h8, if_neg h12, if_neg hcontrol]

/-- A character is read back from how it is written. -/
theorem readString_escaped (c : Char) (read : List Char) :
    readString (budget + 1) read (escaped c ++ rest) = readString budget (c :: read) rest := by
  rcases escaped_cases c with ⟨hc, hquote, hback, hcontrol⟩ | ⟨es, hc, hread⟩
  · rw [hc, List.singleton_append, readString, if_neg hquote, if_neg hback, if_neg hcontrol]
  · rw [hc, List.cons_append, readString, if_neg (by decide), if_pos rfl, hread]

theorem length_escaped_pos (c : Char) : 0 < (escaped c).length := by
  rcases escaped_cases c with ⟨hc, -⟩ | ⟨es, hc, -⟩ <;> (rw [hc]; exact Nat.succ_pos _)

theorem readString_flatMap_escaped {cs : List Char} (h : cs.length < budget) (read : List Char) :
    readString budget read (cs.flatMap escaped ++ '"' :: rest) =
      .ok (String.ofList (read.reverse ++ cs), rest) := by
  induction cs generalizing budget read with
  | nil =>
    obtain ⟨budget, rfl⟩ := Nat.exists_eq_add_of_lt h
    show readString (0 + budget + 1) read ('"' :: rest) = _
    rw [readString, if_pos rfl, List.append_nil]
  | cons c cs ih =>
    obtain ⟨budget, rfl⟩ := Nat.exists_eq_add_of_lt (Nat.lt_of_le_of_lt (Nat.zero_le _) h)
    rw [List.flatMap_cons, List.append_assoc, readString_escaped, ih]
    · rw [List.reverse_cons, List.append_assoc, List.singleton_append]
    · rw [List.length_cons] at h
      omega

theorem length_le_length_flatMap_escaped (cs : List Char) :
    cs.length ≤ (cs.flatMap escaped).length := by
  induction cs with
  | nil => exact Nat.le_refl _
  | cons c cs ih =>
    have := length_escaped_pos c
    rw [List.flatMap_cons, List.length_append, List.length_cons]
    omega

/-- A string is read back from between its quotation marks. -/
theorem readString_quoted (s : String) (rest : List Char) :
    let cs := s.toList.flatMap escaped ++ '"' :: rest
    readString (cs.length + 1) [] cs = .ok (s, rest) := by
  intro cs
  have hlength : s.toList.length < cs.length + 1 := by
    have := length_le_length_flatMap_escaped s.toList
    rw [List.length_append]
    omega
  rw [readString_flatMap_escaped hlength, List.reverse_nil, List.nil_append, String.ofList_toList]

/-! ## Numbers -/

/-- A text that may follow a value. -/
def Follows (rest : List Char) : Prop := ∀ c ∈ rest.head?, c = ',' ∨ c = ']' ∨ c = '\x7d'

theorem spanDigits_append {ds : List Char} (hds : ∀ c ∈ ds, c.isDigit = true)
    (hrest : Follows rest) : spanDigits (ds ++ rest) = (ds, rest) := by
  have htake : rest.takeWhile Char.isDigit = [] ∧ rest.dropWhile Char.isDigit = rest := by
    cases rest with
    | nil => exact ⟨rfl, rfl⟩
    | cons c rest =>
      have hc : c.isDigit = false := by
        rcases hrest c rfl with rfl | rfl | rfl <;> rfl
      exact ⟨by rw [List.takeWhile_cons, hc]; rfl, by rw [List.dropWhile_cons, hc]; rfl⟩
  rw [spanDigits, List.span_eq_takeWhile_dropWhile, List.takeWhile_append_of_pos hds,
    List.dropWhile_append_of_pos hds, htake.1, htake.2, List.append_nil]

theorem digitsValue_decimalDigits (n : Nat) : digitsValue 0 (Text.decimalDigits n) = n := by
  have hvalue (ds : List Char) (v : Nat) : digitsValue v ds = Nat.ofDigitChars 10 ds v := by
    induction ds generalizing v with
    | nil => rfl
    | cons d ds ih =>
      rw [Nat.ofDigitChars_cons, ← ih, Nat.mul_comm 10 v]
      rfl
  rw [hvalue]
  exact Nat.ofDigitChars_ten_toDigits

/-- The digits of a number do not start with a zero that counts for nothing. -/
theorem decimalDigits_ne_zero_cons (n : Nat) (d : Char) (ds : List Char) :
    Text.decimalDigits n ≠ '0' :: d :: ds := by
  intro h
  have hdigits : ∀ c ∈ d :: ds, c.isDigit = true := fun c hc =>
    Text.isDigit_of_mem_decimalDigits (h ▸ List.mem_cons_of_mem _ hc)
  have hvalue : Nat.ofDigitChars 10 (d :: ds) 0 = n := by
    rw [← Nat.ofDigitChars_ten_toDigits (n := n), ← Text.decimalDigits, h]
    rfl
  obtain ⟨zeros, hzeros⟩ := Text.exists_zeros (List.cons_ne_nil _ _) hdigits
  rw [hvalue, h] at hzeros
  have hlength := congrArg List.length hzeros
  simp only [List.length_cons, List.length_append, List.length_replicate] at hlength
  omega

theorem readFraction_of_follows {negative : Bool} {n : Nat} {j : Json}
    (hj : ofInteger negative n = some j) (hrest : Follows rest) :
    readFraction negative n rest = .ok (j, rest) := by
  cases rest with
  | nil => rw [readFraction, hj]
  | cons c rest =>
    rcases hrest c rfl with rfl | rfl | rfl <;> (unfold readFraction; simp [hj])

/-- An integer is read back from its digits. -/
theorem readNumber_decimalDigits {negative : Bool} {n : Nat} {j : Json}
    (hj : ofInteger negative n = some j) (hrest : Follows rest) :
    readNumber negative (Text.decimalDigits n ++ rest) = .ok (j, rest) := by
  have hspan := spanDigits_append (fun _ => Text.isDigit_of_mem_decimalDigits (n := n)) hrest
  unfold readNumber
  rw [hspan]
  split
  · rename_i h
    exact absurd (Prod.ext_iff.1 h).1 (Text.decimalDigits_ne_nil n)
  · rename_i h
    exact absurd (Prod.ext_iff.1 h).1 (Text.decimalDigits_ne_nil n)
  · rename_i h
    exact absurd (Prod.ext_iff.1 h).1 (decimalDigits_ne_zero_cons n _ _)
  · rename_i h
    obtain ⟨rfl, rfl⟩ := Prod.ext_iff.1 h
    rw [digitsValue_decimalDigits, readFraction_of_follows hj hrest]

/-! ## Values -/

/-- A value that nests no deeper than `depth`, with integers of 64 bits and without doubles. -/
def IsPlain : (depth : Nat) → Json → Prop
  | _, .null | _, .bool _ | _, .str _ => True
  | _, .int n => -(UInt64.size / 2 : Int) ≤ n ∧ n < UInt64.size
  | _, .real _ => False
  | 0, .arr _ | 0, .obj _ => False
  | depth + 1, .arr xs => ∀ x ∈ xs, IsPlain depth x
  | depth + 1, .obj ms => ∀ m ∈ ms, IsPlain depth m.2

/-- A character with which a value starts. -/
def Starts (c : Char) : Prop := isSpace c = false ∧ c ≠ ']' ∧ c ≠ '\x7d'

theorem skipSpace_cons {c : Char} (h : isSpace c = false) : skipSpace (c :: rest) = c :: rest := by
  rw [skipSpace, List.dropWhile_cons, h]
  rfl

theorem starts_of_isDigit {c : Char} (h : c.isDigit = true) : Starts c := by
  refine ⟨?_, ?_, ?_⟩
  · by_contra hspace
    simp only [isSpace, Bool.not_eq_false, Bool.or_eq_true, beq_iff_eq] at hspace
    rcases hspace with ((rfl | rfl) | rfl) | rfl <;> cases h
  · rintro rfl
    cases h
  · rintro rfl
    cases h

/-- The digits of a number start with a digit. -/
theorem exists_decimalDigits_eq_cons (n : Nat) :
    ∃ c cs, Text.decimalDigits n = c :: cs ∧ c.isDigit = true := by
  cases h : Text.decimalDigits n with
  | nil => exact absurd h (Text.decimalDigits_ne_nil n)
  | cons c cs =>
    exact ⟨c, cs, rfl, Text.isDigit_of_mem_decimalDigits (n := n) (h ▸ List.mem_cons_self ..)⟩

theorem toList_signedDecimal_ofNat (n : Nat) :
    (Text.signedDecimal (.ofNat n)).toList = Text.decimalDigits n := by
  rw [Text.signedDecimal, Text.decimal, String.toList_ofList]

theorem toList_signedDecimal_negSucc (n : Nat) :
    (Text.signedDecimal (.negSucc n)).toList = '-' :: Text.decimalDigits (n + 1) := by
  simp [Text.signedDecimal, Text.decimal]

/-- A written value starts with a character of its own. -/
theorem exists_write_eq_cons {j : Json} (h : j.IsPlain depth) :
    ∃ c cs, j.write = c :: cs ∧ Starts c := by
  have starts {c : Char} (hc : isSpace c = false ∧ c ≠ ']' ∧ c ≠ '\x7d') : Starts c := hc
  match j with
  | .null => exact ⟨'n', _, rfl, starts (by decide)⟩
  | .bool true => exact ⟨'t', _, rfl, starts (by decide)⟩
  | .bool false => exact ⟨'f', _, rfl, starts (by decide)⟩
  | .str s => exact ⟨'"', _, rfl, starts (by decide)⟩
  | .arr xs => exact ⟨'[', _, rfl, starts (by decide)⟩
  | .obj ms => exact ⟨'\x7b', _, rfl, starts (by decide)⟩
  | .real x => cases depth <;> cases h
  | .int (.ofNat n) =>
    obtain ⟨c, cs, hdigits, hc⟩ := exists_decimalDigits_eq_cons n
    rw [write, toList_signedDecimal_ofNat]
    exact ⟨c, cs, hdigits, starts_of_isDigit hc⟩
  | .int (.negSucc n) =>
    rw [write, toList_signedDecimal_negSucc]
    exact ⟨'-', _, rfl, starts (by decide)⟩

/-- An integer of 64 bits is read back. -/
theorem readValue_int {n : Int} (h : -(UInt64.size / 2 : Int) ≤ n ∧ n < UInt64.size)
    (hrest : Follows rest) :
    readValue (budget + 1) depth ((Json.int n).write ++ rest) = .ok (.int n, rest) := by
  have hsize : UInt64.size = 18446744073709551616 := rfl
  cases n with
  | ofNat n =>
    have hlt : (n : Int) < UInt64.size := h.2
    have hn : ofInteger false n = some (.int n) := by
      rw [ofInteger, if_neg Bool.false_ne_true, if_pos (by omega)]
    obtain ⟨c, cs, hdigits, hc⟩ := exists_decimalDigits_eq_cons n
    have hread := readNumber_decimalDigits hn hrest
    rw [write, toList_signedDecimal_ofNat]
    rw [hdigits, List.cons_append] at hread ⊢
    have hne {d : Char} (hd : d.isDigit = false) : c ≠ d := by
      rintro rfl
      rw [hc] at hd
      cases hd
    rw [readValue, skipSpace_cons (starts_of_isDigit hc).1]
    show (if c = 'n' then _ else _) = _
    rw [if_neg (hne rfl), if_neg (hne rfl), if_neg (hne rfl), if_neg (hne rfl), if_pos hc]
    exact hread
  | negSucc n =>
    have hn : ofInteger true (n + 1) = some (.int (.negSucc n)) := by
      rw [ofInteger, if_pos rfl, if_pos (by omega)]
      rfl
    rw [write, toList_signedDecimal_negSucc, List.cons_append, readValue, skipSpace_cons rfl]
    exact readNumber_decimalDigits hn hrest

/-- What is written behind the first of some texts that are joined. -/
def writeRest (ws : List (List Char)) : List Char := ws.flatMap (',' :: ·)

theorem commaSeparated_cons (w : List Char) (ws : List (List Char)) :
    commaSeparated (w :: ws) = w ++ writeRest ws := by
  induction ws generalizing w with
  | nil => exact (List.append_nil w).symm
  | cons v ws ih =>
    show w ++ ',' :: commaSeparated (v :: ws) = _
    rw [ih, writeRest, writeRest, List.flatMap_cons, List.cons_append]

theorem follows_writeRest (ws : List (List Char)) {c : Char} (hc : c = ']' ∨ c = '\x7d')
    (rest : List Char) :
    Follows (writeRest ws ++ c :: rest) := by
  cases ws with
  | nil =>
    rintro _ ⟨⟩
    exact .inr hc
  | cons w ws =>
    rintro _ ⟨⟩
    exact .inl rfl

/-- Values of a nesting depth are read back from their texts. -/
def ReadsBack (depth : Nat) : Prop :=
  ∀ {j : Json}, j.IsPlain depth → ∀ {rest : List Char}, Follows rest → ∀ {budget : Nat},
    4 * j.write.length ≤ budget → readValue budget depth (j.write ++ rest) = .ok (j, rest)

section Elements

variable {read : List Json} {cs : List Char} {c : Char} {x : Json}

theorem readElements_close (read : List Json) :
    readElements (budget + 1) depth read (']' :: rest) = .ok (.arr read.reverse, rest) := by
  rw [readElements, skipSpace_cons rfl]
  exact if_pos rfl

theorem readElements_first (hc : Starts c) (hx : readValue budget depth (c :: cs) = .ok (x, rest)) :
    readElements (budget + 2) depth [] (c :: cs) = readElements budget depth [x] rest := by
  rw [readElements, skipSpace_cons hc.1]
  show (if c = ']' then _ else _) = _
  rw [if_neg hc.2.1]
  show readElement (budget + 1) depth [] (c :: cs) = _
  rw [readElement, hx]

theorem readElements_comma (hread : read ≠ []) (hc : Starts c)
    (hx : readValue budget depth (c :: cs) = .ok (x, rest)) :
    readElements (budget + 2) depth read (',' :: c :: cs) =
      readElements budget depth (x :: read) rest := by
  rw [readElements, skipSpace_cons rfl]
  show (if ',' = ']' then _ else if read.isEmpty = true then _ else if ',' = ',' then _ else _) = _
  rw [if_neg (by decide), if_neg (by rwa [List.isEmpty_iff]), if_pos rfl, skipSpace_cons hc.1]
  show (if c = ']' then _ else _) = _
  rw [if_neg hc.2.1, readElement, hx]

/-- The elements behind those already read are read back. -/
theorem readElements_writeRest (ih : ReadsBack depth) {xs : List Json}
    (hxs : ∀ x ∈ xs, x.IsPlain depth) (hread : read ≠ [])
    (hbudget : 4 * (writeRest (writeElements xs)).length + 4 ≤ budget) :
    readElements budget depth read (writeRest (writeElements xs) ++ ']' :: rest) =
      .ok (.arr (read.reverse ++ xs), rest) := by
  induction xs generalizing read budget with
  | nil =>
    obtain ⟨budget, rfl⟩ := Nat.exists_eq_add_of_le' (show 1 ≤ budget by omega)
    rw [List.append_nil]
    exact readElements_close read
  | cons x xs ihxs =>
    rw [List.forall_mem_cons] at hxs
    obtain ⟨c, cs, hx, hc⟩ := exists_write_eq_cons hxs.1
    have hwrite : writeRest (writeElements (x :: xs)) =
        ',' :: (x.write ++ writeRest (writeElements xs)) := rfl
    rw [hwrite, List.length_cons, List.length_append] at hbudget
    obtain ⟨budget, rfl⟩ := Nat.exists_eq_add_of_le' (show 2 ≤ budget by omega)
    have hvalue := ih hxs.1 (follows_writeRest (writeElements xs) (.inl rfl) rest)
      (show 4 * x.write.length ≤ budget by omega)
    rw [hx, List.cons_append] at hvalue
    rw [hwrite, hx, List.cons_append, List.append_assoc, List.cons_append,
      readElements_comma hread hc hvalue, ihxs hxs.2 (List.cons_ne_nil x read) (by omega),
      List.reverse_cons, List.append_assoc, List.singleton_append]

/-- An array is read back, if its elements are. -/
theorem readElements_write (ih : ReadsBack depth) {xs : List Json}
    (hxs : ∀ x ∈ xs, x.IsPlain depth)
    (hbudget : 4 * (commaSeparated (writeElements xs)).length + 4 ≤ budget) :
    readElements budget depth [] (commaSeparated (writeElements xs) ++ ']' :: rest) =
      .ok (.arr xs, rest) := by
  cases xs with
  | nil =>
    obtain ⟨budget, rfl⟩ := Nat.exists_eq_add_of_le' (show 1 ≤ budget by omega)
    exact readElements_close []
  | cons x xs =>
    rw [List.forall_mem_cons] at hxs
    obtain ⟨c, cs, hx, hc⟩ := exists_write_eq_cons hxs.1
    rw [writeElements, commaSeparated_cons] at hbudget ⊢
    rw [List.length_append] at hbudget
    have hpos : 0 < x.write.length := by rw [hx]; exact Nat.succ_pos _
    obtain ⟨budget, rfl⟩ := Nat.exists_eq_add_of_le' (show 2 ≤ budget by omega)
    have hvalue := ih hxs.1 (follows_writeRest (writeElements xs) (.inl rfl) rest)
      (show 4 * x.write.length ≤ budget by omega)
    rw [hx, List.cons_append] at hvalue
    rw [hx, List.cons_append, List.cons_append, List.append_assoc, readElements_first hc hvalue,
      readElements_writeRest ih hxs.2 (List.cons_ne_nil x []) (by omega)]
    rfl

end Elements

section Members

variable {read : List (String × Json)} {cs : List Char} {x : Json}

theorem quoted_append (s : String) (rest : List Char) :
    quoted s ++ rest = '"' :: (s.toList.flatMap escaped ++ '"' :: rest) := by
  rw [quoted, List.cons_append, List.append_assoc, List.singleton_append]

theorem readValue_str (s : String) (rest : List Char) :
    readValue (budget + 1) depth ((Json.str s).write ++ rest) = .ok (.str s, rest) := by
  rw [write, quoted_append, readValue, skipSpace_cons rfl]
  simp only [readString_quoted]
  rfl

theorem readMember_quoted (name : String) (read : List (String × Json))
    (hx : readValue budget depth cs = .ok (x, rest)) :
    readMember (budget + 1) depth read (quoted name ++ ':' :: cs) =
      readMembers budget depth ((name, x) :: read) rest := by
  rw [quoted_append, readMember, if_pos rfl, readString_quoted]
  simp only [skipSpace_cons (show isSpace ':' = false from rfl), hx]

theorem readMembers_close (read : List (String × Json)) :
    readMembers (budget + 1) depth read ('\x7d' :: rest) = .ok (.obj read.reverse, rest) := by
  rw [readMembers, skipSpace_cons rfl]
  exact if_pos rfl

theorem readMembers_first (name : String) (hx : readValue budget depth cs = .ok (x, rest)) :
    readMembers (budget + 2) depth [] (quoted name ++ ':' :: cs) =
      readMembers budget depth [(name, x)] rest := by
  rw [← readMember_quoted name [] hx, quoted_append, readMembers, skipSpace_cons rfl]
  rfl

theorem readMembers_comma (hread : read ≠ []) (name : String)
    (hx : readValue budget depth cs = .ok (x, rest)) :
    readMembers (budget + 2) depth read (',' :: (quoted name ++ ':' :: cs)) =
      readMembers budget depth ((name, x) :: read) rest := by
  rw [← readMember_quoted name read hx, quoted_append, readMembers, skipSpace_cons rfl]
  show (if ',' = '\x7d' then _ else if read.isEmpty = true then _ else
    if ',' = ',' then _ else _) = _
  rw [if_neg (by decide), if_neg (by rwa [List.isEmpty_iff]), if_pos rfl, skipSpace_cons rfl]
  rfl

/-- The members behind those already read are read back. -/
theorem readMembers_writeRest (ih : ReadsBack depth) {ms : List (String × Json)}
    (hms : ∀ m ∈ ms, m.2.IsPlain depth) (hread : read ≠ [])
    (hbudget : 4 * (writeRest (writeMembers ms)).length + 4 ≤ budget) :
    readMembers budget depth read (writeRest (writeMembers ms) ++ '\x7d' :: rest) =
      .ok (.obj (read.reverse ++ ms), rest) := by
  induction ms generalizing read budget with
  | nil =>
    obtain ⟨budget, rfl⟩ := Nat.exists_eq_add_of_le' (show 1 ≤ budget by omega)
    rw [List.append_nil]
    exact readMembers_close read
  | cons m ms ihms =>
    obtain ⟨name, x⟩ := m
    rw [List.forall_mem_cons] at hms
    have hwrite : writeRest (writeMembers ((name, x) :: ms)) =
        ',' :: (quoted name ++ ':' :: x.write ++ writeRest (writeMembers ms)) := rfl
    rw [hwrite, List.length_cons, List.length_append, List.length_append, List.length_cons]
      at hbudget
    obtain ⟨budget, rfl⟩ := Nat.exists_eq_add_of_le' (show 2 ≤ budget by omega)
    have hvalue := ih hms.1 (follows_writeRest (writeMembers ms) (.inr rfl) rest)
      (show 4 * x.write.length ≤ budget by omega)
    rw [hwrite, List.cons_append, List.append_assoc, List.append_assoc, List.cons_append,
      readMembers_comma hread name hvalue, ihms hms.2 (List.cons_ne_nil _ read) (by omega),
      List.reverse_cons, List.append_assoc, List.singleton_append]

/-- An object is read back, if the values of its members are. -/
theorem readMembers_write (ih : ReadsBack depth) {ms : List (String × Json)}
    (hms : ∀ m ∈ ms, m.2.IsPlain depth)
    (hbudget : 4 * (commaSeparated (writeMembers ms)).length + 4 ≤ budget) :
    readMembers budget depth [] (commaSeparated (writeMembers ms) ++ '\x7d' :: rest) =
      .ok (.obj ms, rest) := by
  cases ms with
  | nil =>
    obtain ⟨budget, rfl⟩ := Nat.exists_eq_add_of_le' (show 1 ≤ budget by omega)
    exact readMembers_close []
  | cons m ms =>
    obtain ⟨name, x⟩ := m
    rw [List.forall_mem_cons] at hms
    rw [writeMembers, commaSeparated_cons] at hbudget ⊢
    rw [List.length_append, List.length_append, List.length_cons] at hbudget
    obtain ⟨budget, rfl⟩ := Nat.exists_eq_add_of_le' (show 2 ≤ budget by omega)
    have hvalue := ih hms.1 (follows_writeRest (writeMembers ms) (.inr rfl) rest)
      (show 4 * x.write.length ≤ budget by omega)
    rw [List.append_assoc, List.append_assoc, List.cons_append, readMembers_first name hvalue,
      readMembers_writeRest ih hms.2 (List.cons_ne_nil _ []) (by omega)]
    rfl

end Members

/-- Values are read back, however deep they nest. -/
theorem readsBack (depth : Nat) : ReadsBack depth := by
  induction depth using Nat.strongRecOn with
  | _ depth ih =>
    intro j hj rest hrest budget hbudget
    have hpos : 0 < j.write.length := by
      obtain ⟨c, cs, hstart, -⟩ := exists_write_eq_cons hj
      rw [hstart]
      exact Nat.succ_pos _
    obtain ⟨budget, rfl⟩ := Nat.exists_eq_add_of_le' (show 1 ≤ budget by omega)
    cases j with
    | null =>
      rw [readValue]
      rfl
    | bool b =>
      rw [readValue]
      cases b <;> rfl
    | int n =>
      refine readValue_int ?_ hrest
      cases depth <;> exact hj
    | real x => cases depth <;> cases hj
    | str s => exact readValue_str s rest
    | arr xs =>
      cases depth with
      | zero => cases hj
      | succ depth =>
        rw [write, List.length_cons, List.length_append, List.length_singleton] at hbudget
        rw [write, List.cons_append, List.append_assoc, List.singleton_append, readValue,
          skipSpace_cons rfl]
        exact readElements_write (ih depth (Nat.lt_succ_self depth)) hj (by omega)
    | obj ms =>
      cases depth with
      | zero => cases hj
      | succ depth =>
        rw [write, List.length_cons, List.length_append, List.length_singleton] at hbudget
        rw [write, List.cons_append, List.append_assoc, List.singleton_append, readValue,
          skipSpace_cons rfl]
        exact readMembers_write (ih depth (Nat.lt_succ_self depth)) hj (by omega)

/-- **A value is read back from its text.** -/
theorem parse_compact {j : Json} (h : j.IsPlain maxDepth) : parse j.compact = .ok j := by
  rw [parse, compact, String.toList_ofList, parseChars]
  have hnothing : Follows [] := nofun
  have hread := readsBack maxDepth h hnothing
    (show 4 * j.write.length ≤ 4 * j.write.length + 4 from Nat.le_add_right ..)
  rw [List.append_nil] at hread
  rw [hread]
  rfl

/-! ## Texts of members -/

theorem memberTexts_quoted {x : Json} (name : String) (hx : x.IsPlain maxDepth)
    (hrest : Follows rest) : memberTexts (budget + 1) (quoted name ++ ':' :: (x.write ++ rest)) =
      (name, x.write) :: memberTexts budget ((skipSpace rest).drop 1) := by
  obtain ⟨c, cs, hstart, hc⟩ := exists_write_eq_cons hx
  have hname : ∀ n, (name.toList.flatMap escaped).length ≤ n →
      readString (n + 1) [] (name.toList.flatMap escaped ++ '"' :: ':' :: (x.write ++ rest)) =
        .ok (name, ':' :: (x.write ++ rest)) := by
    intro n hn
    have hlength := length_le_length_flatMap_escaped name.toList
    rw [readString_flatMap_escaped (by omega), List.reverse_nil, List.nil_append,
      String.ofList_toList]
  have hvalue : skipSpace (x.write ++ rest) = x.write ++ rest := by
    rw [hstart, List.cons_append, skipSpace_cons hc.1]
  rw [memberTexts, quoted_append, skipSpace_cons rfl, List.drop_one, List.tail_cons,
    hname _ (by simp only [List.length_cons, List.length_append]; omega)]
  dsimp only
  rw [skipSpace_cons rfl, List.drop_one, List.tail_cons, hvalue,
    readsBack maxDepth hx hrest (by rw [List.length_append]; omega)]
  dsimp only
  rw [List.length_append, Nat.add_sub_cancel, List.take_left]

theorem memberTexts_writeMembers {ms : List (String × Json)} (hne : ms ≠ [])
    (hms : ∀ m ∈ ms, m.2.IsPlain maxDepth) (hbudget : ms.length ≤ budget) :
    memberTexts budget (commaSeparated (writeMembers ms) ++ ['\x7d']) =
      ms.map fun m => (m.1, m.2.write) := by
  induction ms generalizing budget with
  | nil => exact absurd rfl hne
  | cons m ms ih =>
    obtain ⟨name, x⟩ := m
    rw [List.forall_mem_cons] at hms
    obtain ⟨budget, rfl⟩ := Nat.exists_eq_add_of_le' (Nat.le_trans (Nat.succ_pos _) hbudget)
    rw [writeMembers, commaSeparated_cons, List.append_assoc, List.append_assoc, List.cons_append,
      memberTexts_quoted name hms.1 (follows_writeRest _ (.inr rfl) []), List.map_cons]
    congr 1
    cases ms with
    | nil => cases budget <;> rfl
    | cons m ms =>
      rw [← ih (List.cons_ne_nil m ms) hms.2 (Nat.le_of_succ_le_succ hbudget)]
      obtain ⟨name, x⟩ := m
      rw [writeMembers, commaSeparated_cons]
      rfl

theorem length_le_length_writeMembers (ms : List (String × Json)) :
    ms.length ≤ (commaSeparated (writeMembers ms)).length + 1 := by
  induction ms with
  | nil => exact Nat.zero_le _
  | cons m ms ih =>
    cases ms with
    | nil => exact Nat.le_add_left ..
    | cons m' ms =>
      have hrest := (List.suffix_append (quoted m.1 ++ ':' :: m.2.write)
        (',' :: commaSeparated (writeMembers (m' :: ms)))).length_le
      exact Nat.succ_le_succ (Nat.le_trans ih hrest)

/-- **The text of a member is found in the text of its object.** -/
theorem memberText?_compact {ms : List (String × Json)} (name : String)
    (h : (Json.obj ms).IsPlain (maxDepth + 1)) : memberText? name (Json.obj ms).compact.toList =
      Assoc.find? name (ms.map fun m => (m.1, m.2.write)) := by
  have hlength := length_le_length_writeMembers ms
  rw [memberText?, compact, String.toList_ofList, write, skipSpace_cons rfl, List.drop_one,
    List.tail_cons, List.length_cons, List.length_append, List.length_singleton]
  cases ms with
  | nil => rfl
  | cons m ms => rw [memberTexts_writeMembers (List.cons_ne_nil m ms) h (by omega)]

end BridgeWatch.Json
