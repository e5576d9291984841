import BridgeWatch.Proofs.Abi.TypeName
import BridgeWatch.Proofs.Schema.Acceptance
import BridgeWatch.Proofs.Schema.Nesting

/-!
# The type names of accepted signatures

A signature is accepted when each of its declarations names a type that can carry its field. The
names that count are more than those that contracts have.

* `Signature.Declares`: what a declaration gives its parameter, under a real name or under one that
  is misread.
* `Signature.parse_eq_ok_iff`: which texts are accepted, and as what.
* `Signature.not_namesTypes_typo`: a misspelled type is accepted.
-/

namespace BridgeWatch

/-! ## First words -/

namespace Text

/-- The characters of a text before its first blank. -/
def leadingRun (cs : List Char) : List Char := cs.takeWhile fun c => !isBlank c

theorem leadingRun_cons_of_blank {c : Char} (h : isBlank c = true) (cs : List Char) :
    leadingRun (c :: cs) = [] := by
  simp [leadingRun, h]

theorem leadingRun_cons_of_not_blank {c : Char} (h : isBlank c = false) (cs : List Char) :
    leadingRun (c :: cs) = c :: leadingRun cs := by
  simp [leadingRun, h]

/-- The first piece of a text ends at its first blank. -/
theorem pieces_eq_cons (cs : List Char) : ∃ ws, pieces isBlank cs = leadingRun cs :: ws := by
  induction cs with
  | nil => exact ⟨[], rfl⟩
  | cons c cs ih =>
    obtain ⟨ws, hws⟩ := ih
    rw [pieces, hws]
    cases h : isBlank c with
    | true =>
      rw [leadingRun_cons_of_blank h]
      exact ⟨leadingRun cs :: ws, rfl⟩
    | false =>
      rw [leadingRun_cons_of_not_blank h]
      exact ⟨ws, rfl⟩

/-- The first word of a text, which is empty if the text has no word. -/
def firstWord (cs : List Char) : List Char := (words cs).headD []

/-- The first word starts behind the blanks in front of it. -/
theorem firstWord_eq (cs : List Char) : firstWord cs = leadingRun (trimStart cs) := by
  induction cs with
  | nil => rfl
  | cons c cs ih =>
    obtain ⟨ws, hws⟩ := pieces_eq_cons cs
    cases h : isBlank c with
    | true =>
      have hskip : firstWord (c :: cs) = firstWord cs := by
        simp [firstWord, words, pieces, hws, h]
      rw [hskip, ih, trimStart, trimStart, List.dropWhile_cons_of_pos h]
    | false =>
      rw [trimStart_cons_of_not_blank h, leadingRun_cons_of_not_blank h]
      simp [firstWord, words, pieces, hws, h]

end Text

namespace Declaration

/-- The word of a declaration that names its type. Blanks inside parentheses do not end it. -/
def typeWord (declaration : List Char) : List Char := Text.firstWord (compact declaration)

theorem compactFrom_zero_cons {c : Char} (h : c ≠ '(') (cs : List Char) :
    compactFrom 0 (c :: cs) = c :: compactFrom 0 cs := by
  have hdepth : depthAfter 0 c = 0 := by
    rw [depthAfter, if_neg h]
    split <;> rfl
  rw [compactFrom_cons_of_kept fun _ => rfl, hdepth]

/-- Up to a parenthesis that opens, a declaration stays as it is. -/
theorem leadingRun_compact (cs : List Char) :
    '(' ∈ Text.leadingRun cs ∧ '(' ∈ Text.leadingRun (compactFrom 0 cs) ∨
      Text.leadingRun (compactFrom 0 cs) = Text.leadingRun cs := by
  induction cs with
  | nil => exact .inr rfl
  | cons c cs ih =>
    by_cases hparen : c = '('
    · subst hparen
      left
      constructor
      · rw [Text.leadingRun_cons_of_not_blank rfl]
        exact List.mem_cons_self
      · rw [compactFrom, if_neg (by decide), Text.leadingRun_cons_of_not_blank rfl]
        exact List.mem_cons_self
    rw [compactFrom_zero_cons hparen]
    cases h : Text.isBlank c with
    | true =>
      right
      rw [Text.leadingRun_cons_of_blank h, Text.leadingRun_cons_of_blank h]
    | false =>
      rw [Text.leadingRun_cons_of_not_blank h, Text.leadingRun_cons_of_not_blank h]
      refine ih.imp ?_ (congrArg (c :: ·))
      rintro ⟨hl, hr⟩
      exact ⟨List.mem_cons_of_mem c hl, List.mem_cons_of_mem c hr⟩

/-- Blanks in front of a declaration stay there. -/
theorem trimStart_compact (cs : List Char) :
    Text.trimStart (compactFrom 0 cs) = compactFrom 0 (Text.trimStart cs) := by
  induction cs with
  | nil => rfl
  | cons c cs ih =>
    cases h : Text.isBlank c with
    | true =>
      have hparen : c ≠ '(' := by
        rintro rfl
        cases h
      rw [compactFrom_zero_cons hparen]
      simpa [Text.trimStart, h] using ih
    | false =>
      rw [Text.trimStart_cons_of_not_blank h, compactFrom_cons_of_kept fun _ => rfl,
        Text.trimStart_cons_of_not_blank h]

/-- The word that names the type is the first one, unless a parenthesis opens in both. -/
theorem typeWord_eq_or (cs : List Char) :
    '(' ∈ Text.firstWord cs ∧ '(' ∈ typeWord cs ∨ typeWord cs = Text.firstWord cs := by
  rw [typeWord, Text.firstWord_eq, Text.firstWord_eq, compact, trimStart_compact]
  exact leadingRun_compact _

/-- No parenthesis stands in a name of contracts. -/
theorem paren_notMem_of_denotes {name : List Char} {t : Abi.ParamType}
    (h : Abi.Denotes name t) : '(' ∉ name := by
  cases h with
  | address | string | bytes | bytes32 | uint => decide
  | sized =>
    rw [List.mem_append]
    rintro (h | h)
    · exact absurd h (by decide)
    · exact absurd (Text.isDigit_of_mem_decimalDigits h) (by decide)

/-- The word that names the type has a name of contracts exactly when the first word has it. -/
theorem denotes_typeWord_iff {cs : List Char} {t : Abi.ParamType} :
    Abi.Denotes (typeWord cs) t ↔ Abi.Denotes (Text.firstWord cs) t := by
  rcases typeWord_eq_or cs with ⟨hfirst, htype⟩ | heq
  · constructor
    · intro h
      exact absurd htype (paren_notMem_of_denotes h)
    · intro h
      exact absurd hfirst (paren_notMem_of_denotes h)
  · rw [heq]

end Declaration

/-! ## Declarations -/

namespace Signature

open Declaration (typeWord)

variable {kind : EventKind} {s : String} {text declaration : List Char}
  {sig : Signature} {f : Field} {t : Abi.ParamType}

/-- A declaration gives its parameter a type. -/
structure Declares (declaration : List Char) (t : Abi.ParamType) : Prop where
  /-- The value of the parameter is in the data of the log. -/
  plain : "indexed".toList ∉ (Text.words (Declaration.compact declaration)).tail
  /-- Its first word is the name of the type in contracts, or else the reader takes the word for
  it. -/
  named : Xor (Abi.Denotes (Text.firstWord declaration) t)
    (Abi.Misnames (typeWord declaration) t)

/-- A declaration is read as the type that its word is read as, unless it is indexed. -/
theorem readDeclaration_eq_ok_iff : readDeclaration text declaration = .ok t ↔
    "indexed".toList ∉ (Text.words (Declaration.compact declaration)).tail ∧
      Abi.ParamType.read (typeWord declaration) = .ok t := by
  rw [readDeclaration, typeWord, Text.firstWord, ← List.contains_iff_mem]
  split
  · rename_i hindexed
    refine iff_of_false nofun ?_
    rintro ⟨hplain, -⟩
    exact hplain hindexed
  · rename_i hplain
    rw [and_iff_right hplain]
    split
    · rename_i hread
      rw [hread, Except.ok.injEq, Except.ok.injEq]
    · rename_i hread
      rw [hread]
      exact iff_of_false nofun nofun

/-- A declaration is read as a type that can carry a field exactly when it gives its parameter the
type. -/
theorem readDeclaration_eq_ok_iff_declares (ha : f.accepts t = true) :
    readDeclaration text declaration = .ok t ↔ Declares declaration t := by
  have hname : Abi.ParamType.read (typeWord declaration) = .ok t ↔
      Xor (Abi.Denotes (Text.firstWord declaration) t)
        (Abi.Misnames (typeWord declaration) t) := by
    rw [Abi.read_eq_ok_iff ha, ← Declaration.denotes_typeWord_iff, xor_iff_or_and_not_and,
      iff_self_and]
    rintro - ⟨hdenotes, hmisnames⟩
    exact Abi.not_misnames_of_denotes hdenotes hmisnames
  rw [readDeclaration_eq_ok_iff, hname]
  exact ⟨fun ⟨hplain, hnamed⟩ => ⟨hplain, hnamed⟩, fun h => ⟨h.plain, h.named⟩⟩

/-- Results are collected exactly when all of them are there. -/
theorem collect_map_eq_ok_iff {ε α β : Type} {read : α → Except ε β} {as : List α} {bs : List β} :
    Abi.collect (as.map read) = .ok bs ↔ List.Forall₂ (fun a b => read a = .ok b) as bs := by
  induction as generalizing bs with
  | nil => simp [Abi.collect, eq_comm]
  | cons a as ih =>
    rw [List.map_cons, List.forall₂_cons_left_iff]
    cases ha : read a with
    | error e => simp [Abi.collect]
    | ok b =>
      rw [Abi.collect]
      cases hc : Abi.collect (as.map read) with
      | error e => simp [← ih, hc]
      | ok rest => simp [← ih, hc, eq_comm]

/-- The declarations of a list are read as types that can carry fields exactly when they give the
parameters these types. -/
theorem collect_readDeclaration_eq_ok_iff {declarations : List (List Char)} {fields : List Field}
    {types : List Abi.ParamType}
    (ha : List.Forall₂ (fun f t => Field.accepts f t = true) fields types) :
    Abi.collect (declarations.map (readDeclaration text)) = .ok types ↔
      List.Forall₂ Declares declarations types := by
  rw [collect_map_eq_ok_iff]
  induction ha generalizing declarations with
  | nil => rw [List.forall₂_nil_right_iff, List.forall₂_nil_right_iff]
  | cons hfield _ ih =>
    rw [List.forall₂_cons_right_iff, List.forall₂_cons_right_iff]
    simp only [readDeclaration_eq_ok_iff_declares hfield, ih]

/-! ## Signatures -/

/-- **Which texts are accepted for a kind of event, and as what**: the text has a name and a list
with one declaration for each field of the kind; each declaration gives its parameter a type that
can carry the field, under a name that contracts have for the type or under one that is misread. -/
theorem parse_eq_ok_iff : parse kind s = .ok sig ↔ ∃ name inner,
    parts (normalize s.toList) = .ok (name, inner) ∧
    List.Forall₂ (fun f t => Field.accepts f t = true) (fieldLayout kind) sig.params ∧
    List.Forall₂ Declares (Declaration.splitTopLevel inner) sig.params ∧
    sig.kind = kind ∧ sig.name = String.ofList name ∧
    sig.canonical = String.ofList (canonicalText name sig.params) ∧
    sig.topic = Signature.topicOf sig.canonical := by
  constructor
  · intro h
    obtain ⟨⟨name, inner⟩, hparts, h⟩ := exists_of_bind_eq_ok h
    obtain ⟨params, hparams, h⟩ := exists_of_bind_eq_ok h
    obtain ⟨⟨⟩, hlayout, h⟩ := exists_of_bind_eq_ok h
    cases h
    have haccepts := checkLayout_eq_ok_iff.1 hlayout
    exact ⟨name, inner, hparts, haccepts, (collect_readDeclaration_eq_ok_iff haccepts).1 hparams,
      rfl, rfl, rfl, rfl⟩
  · rintro ⟨name, inner, hparts, haccepts, hdeclares, hkind, hname, hcanonical, htopic⟩
    have hparams : Abi.collect ((Declaration.splitTopLevel inner).map
        (readDeclaration (normalize s.toList))) = .ok sig.params :=
      (collect_readDeclaration_eq_ok_iff haccepts).2 hdeclares
    have hlayout : checkLayout kind (normalize s.toList) sig.params = .ok () :=
      checkLayout_eq_ok_iff.2 haccepts
    have hsig : sig = ⟨kind, String.ofList name, sig.params,
        String.ofList (canonicalText name sig.params),
        Signature.topicOf (String.ofList (canonicalText name sig.params))⟩ := by
      rw [← hcanonical, ← htopic, ← hname, ← hkind]
    rw [hsig]
    simp only [parse, parseWith, bind, Except.bind, pure, Except.pure, hparts, hparams, hlayout]

/-! ## A misspelled type -/

/-- A signature's text names its types as contracts do: its list has one declaration for each
parameter, and the first word of the declaration denotes the type of the parameter. -/
def NamesTypes (s : String) (sig : Signature) : Prop :=
  ∃ name inner, parts (normalize s.toList) = .ok (name, inner) ∧
    List.Forall₂ (fun declaration t => Abi.Denotes (Text.firstWord declaration) t)
      (Declaration.splitTopLevel inner) sig.params

/-- A signature with a misspelled type is accepted. -/
theorem not_namesTypes_typo : ∃ sig, parse .release "Unlock(address,unit256)" = .ok sig ∧
    ¬sig.NamesTypes "Unlock(address,unit256)" := by
  refine ⟨⟨.release, "Unlock", [.address, .uint 8], "Unlock(address,uint8)",
    Signature.topicOf "Unlock(address,uint8)"⟩, rfl, ?_⟩
  rintro ⟨name, inner, hparts, hnames⟩
  have htext : parts (normalize "Unlock(address,unit256)".toList) =
      .ok ("Unlock".toList, "address,unit256".toList) := rfl
  rw [htext] at hparts
  cases hparts
  have hlist : Declaration.splitTopLevel "address,unit256".toList =
      ["address".toList, "unit256".toList] := rfl
  rw [hlist, List.forall₂_cons, List.forall₂_cons] at hnames
  have hdenotes : Abi.Denotes "unit256".toList (.uint 8) := hnames.2.1
  have hunknown : Abi.IsUnknown "unit256".toList := by
    have hlast : "unit256".toList.getLast? = some '6' := rfl
    refine ⟨by decide, by decide, ?_⟩
    intro last hl heq
    obtain rfl : '6' = last := Option.some.inj (hlast.symm.trans heq)
    simp at hl
  exact Abi.not_misnames_of_denotes hdenotes (.unknown hunknown)

end Signature

end BridgeWatch
