import BridgeWatch.Text.Blank
import Mathlib.Data.List.Basic
import Mathlib.Data.List.TakeWhile

/-!
# Words and the white space between them

* `trim_surround`: white space around a text is taken off, and nothing else.
* `exists_surround`: so a text is what is left of it with white space around.
* `Behind`: how words can be written behind a first one, each after at least one character of white
  space. The words are found again (`words_behind`), whatever the white space was.
-/

namespace BridgeWatch.Text

variable {w cs a b : List Char} {c : Char} {ws : List (List Char)}

/-- A text of at least one character, none of which is white space. -/
structure IsWord (w : List Char) : Prop where
  ne_nil : w ≠ []
  solid : ∀ c ∈ w, isBlank c = false

/-- Some words, each written behind white space. -/
inductive Behind : List (List Char) → List Char → Prop
  | nil : Behind [] []
  | cons {gap w cs : List Char} {ws : List (List Char)} (apart : gap ≠ [])
    (blank : isAllBlank gap = true) (word : IsWord w) (rest : Behind ws cs) :
    Behind (w :: ws) (gap ++ (w ++ cs))

theorem isAllBlank_cons :
    isAllBlank (c :: cs) = true ↔ isBlank c = true ∧ isAllBlank cs = true := by
  rw [isAllBlank, List.all_cons, Bool.and_eq_true, isAllBlank]

theorem forall_of_isAllBlank (h : isAllBlank a = true) : ∀ c ∈ a, isBlank c = true :=
  List.all_eq_true.1 h

/-! ## The ends of a text -/

/-- White space around a text is taken off if the text has none at its ends. -/
theorem trim_surround (ha : isAllBlank a = true) (hb : isAllBlank b = true) (hcs : cs ≠ [])
    (first : ∀ c ∈ cs.head?, isBlank c = false) (last : ∀ c ∈ cs.getLast?, isBlank c = false) :
    trim (a ++ (cs ++ b)) = cs := by
  have hstart : trimStart (a ++ (cs ++ b)) = cs ++ b := by
    rw [trimStart, List.dropWhile_append_of_pos (forall_of_isAllBlank ha)]
    cases cs with
    | nil => exact absurd rfl hcs
    | cons c cs => exact trimStart_cons_of_not_blank (first c rfl) _
  have hb' : ∀ c ∈ b.reverse, isBlank c = true := fun c hc =>
    forall_of_isAllBlank hb c (List.mem_reverse.1 hc)
  rw [trim, hstart, trimEnd, List.reverse_append, List.dropWhile_append_of_pos hb']
  cases hr : cs.reverse with
  | nil => exact absurd (List.reverse_eq_nil_iff.1 hr) hcs
  | cons c rest =>
    have hc : isBlank c = false := last c (by rw [List.getLast?_eq_head?_reverse, hr]; rfl)
    rw [List.dropWhile_cons_of_neg (by simp [hc]), ← hr, List.reverse_reverse]

theorem trim_append_of_blank (ha : isAllBlank a = true) (hcs : cs ≠ [])
    (first : ∀ c ∈ cs.head?, isBlank c = false) (last : ∀ c ∈ cs.getLast?, isBlank c = false) :
    trim (a ++ cs) = cs := by
  have := trim_surround (b := []) ha rfl hcs first last
  rwa [List.append_nil] at this

theorem trim_eq_self (hcs : cs ≠ []) (first : ∀ c ∈ cs.head?, isBlank c = false)
    (last : ∀ c ∈ cs.getLast?, isBlank c = false) : trim cs = cs :=
  trim_append_of_blank (a := []) rfl hcs first last

/-- A text is what is left of it without the white space at its ends, and white space around. -/
theorem exists_surround (cs : List Char) : ∃ a b, isAllBlank a = true ∧ isAllBlank b = true ∧
    cs = a ++ (trim cs ++ b) := by
  refine ⟨cs.takeWhile isBlank, ((trimStart cs).reverse.takeWhile isBlank).reverse, ?_, ?_, ?_⟩
  · exact List.all_takeWhile
  · rw [isAllBlank, List.all_reverse, List.all_takeWhile]
  · have hback : trim cs ++ ((trimStart cs).reverse.takeWhile isBlank).reverse = trimStart cs := by
      rw [trim, trimEnd, ← List.reverse_append, List.takeWhile_append_dropWhile,
        List.reverse_reverse]
    rw [hback, trimStart, List.takeWhile_append_dropWhile]

theorem not_blank_of_head?_trim (cs : List Char) :
    ∀ c ∈ (trim cs).head?, isBlank c = false := by
  intro c hc
  have hprefix : trim cs <+: trimStart cs := by
    rw [trim, trimEnd, ← List.reverse_suffix, List.reverse_reverse]
    exact List.dropWhile_suffix _
  obtain ⟨b, hb⟩ := hprefix
  have hne : trim cs ≠ [] := List.ne_nil_of_mem (List.mem_of_head? hc)
  have h := List.head?_dropWhile_not isBlank cs
  rw [← trimStart, ← hb, List.head?_append_of_ne_nil _ hne, Option.mem_def.1 hc] at h
  simpa using h

/-- Nothing is left of a text without the white space at its ends exactly when it is all white
space. -/
theorem trim_eq_nil_iff : trim cs = [] ↔ isAllBlank cs = true := by
  obtain ⟨a, b, ha, hb, hcs⟩ := exists_surround cs
  constructor
  · intro h
    rw [h, List.nil_append] at hcs
    rw [hcs, isAllBlank, List.all_append, Bool.and_eq_true]
    exact ⟨ha, hb⟩
  · intro h
    by_contra hne
    obtain ⟨c, rest, hc⟩ := List.exists_cons_of_ne_nil hne
    have hmem : c ∈ cs := by
      rw [hcs, hc]
      simp
    have first := not_blank_of_head?_trim cs c (by rw [hc]; rfl)
    rw [forall_of_isAllBlank h c hmem] at first
    cases first

/-! ## Words -/

theorem IsWord.head? (h : IsWord w) (cs : List Char) :
    ∀ c ∈ (w ++ cs).head?, isBlank c = false := by
  cases w with
  | nil => exact absurd rfl h.ne_nil
  | cons c w =>
    rintro d ⟨⟩
    exact h.solid _ List.mem_cons_self

theorem IsWord.trim (h : IsWord w) : trim w = w :=
  trim_eq_self h.ne_nil (fun c hc => h.solid c (List.mem_of_head? hc))
    fun c hc => h.solid c (List.mem_of_getLast? hc)

theorem pieces_of_solid {p : Char → Bool} (h : ∀ c ∈ w, p c = false) : pieces p w = [w] := by
  induction w with
  | nil => rfl
  | cons c w ih =>
    obtain ⟨hc, hw⟩ := List.forall_mem_cons.1 h
    rw [pieces, ih hw]
    simp [hc]

/-- A text is cut at each character that cuts. -/
theorem pieces_append_cons {p : Char → Bool} (hc : p c = true) (cs ds : List Char) :
    pieces p (cs ++ c :: ds) = pieces p cs ++ pieces p ds := by
  induction cs with
  | nil =>
    obtain ⟨w, ws, hws⟩ := List.exists_cons_of_ne_nil (pieces_ne_nil p ds)
    simp [pieces, hws, hc]
  | cons d cs ih =>
    obtain ⟨w, ws, hws⟩ := List.exists_cons_of_ne_nil (pieces_ne_nil p cs)
    rw [List.cons_append, pieces, ih, pieces, hws]
    by_cases hd : p d = true <;> simp [hd]

theorem words_of_isWord (h : IsWord w) : words w = [w] := by
  simp [words, pieces_of_solid h.solid, h.ne_nil]

/-- A word ends at the white space behind it. -/
theorem words_append_cons (h : IsWord w) (hc : isBlank c = true) (cs : List Char) :
    words (w ++ c :: cs) = w :: words cs := by
  simp [words, pieces_append_cons hc, pieces_of_solid h.solid, h.ne_nil]

/-- White space in front of a text does not matter to its words. -/
theorem words_blank_append (h : isAllBlank a = true) (cs : List Char) :
    words (a ++ cs) = words cs := by
  induction a with
  | nil => rfl
  | cons c a ih =>
    obtain ⟨hc, ha⟩ := isAllBlank_cons.1 h
    rw [← ih ha]
    have hpieces : pieces isBlank (c :: (a ++ cs)) = [] :: pieces isBlank (a ++ cs) :=
      pieces_append_cons hc [] _
    simp [words, hpieces]

/-- **Words are found again** however much white space stands between them. -/
theorem words_behind (hw : IsWord w) (h : Behind ws cs) : words (w ++ cs) = w :: ws := by
  induction h generalizing w with
  | nil => rw [List.append_nil, words_of_isWord hw]
  | @cons gap w' cs ws apart blank word rest ih =>
    obtain ⟨c, gap, rfl⟩ := List.exists_cons_of_ne_nil apart
    obtain ⟨hc, hgap⟩ := isAllBlank_cons.1 blank
    rw [List.cons_append, words_append_cons hw hc, words_blank_append hgap, ih word]

/-- Words behind a word end as a word does. -/
theorem getLast?_behind (hw : IsWord w) (h : Behind ws cs) :
    ∀ c ∈ (w ++ cs).getLast?, isBlank c = false := by
  induction h generalizing w with
  | nil =>
    intro c hc
    rw [List.append_nil] at hc
    exact hw.solid c (List.mem_of_getLast? hc)
  | @cons gap w' cs ws apart blank word rest ih =>
    have hne : w' ++ cs ≠ [] := List.append_ne_nil_of_left_ne_nil word.ne_nil cs
    intro c hc
    rw [← List.append_assoc, List.getLast?_append_of_ne_nil _ hne] at hc
    exact ih word c hc

/-- A declaration of words behind a word, with white space around it. -/
theorem trim_behind (ha : isAllBlank a = true) (hw : IsWord w) (h : Behind ws cs)
    (hb : isAllBlank b = true) : trim (a ++ (w ++ cs ++ b)) = w ++ cs :=
  trim_surround ha hb (List.append_ne_nil_of_left_ne_nil hw.ne_nil cs) (hw.head? cs)
    (getLast?_behind hw h)

end BridgeWatch.Text
