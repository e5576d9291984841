import BridgeWatch.Proofs.Text.Lowercase
import BridgeWatch.Text.Quoted

/-!
# Quoted texts in lowercase

Between quotation marks, a character stands for itself or is escaped. No escaped character becomes,
in lowercase, one that is printable ASCII and stands for itself (`shown_cases`). What such
characters spell in the lowercase form of a text, they spell between two escapes
(`exists_infix_lower`), and so in the lowercase form of the quoted text, too
(`infix_lower_quoted`).
-/

namespace BridgeWatch.Text

variable {c : Char} {cs needle : List Char}

/-! ## Texts between separators -/

section Separators

variable {α : Type} {x : α} {xs : List α}

/-- A start that does not hold a separator ends before it. -/
theorem prefix_of_prefix_append_cons {front back : List α} (hx : x ∉ xs)
    (h : xs <+: front ++ x :: back) : xs <+: front := by
  induction front generalizing xs with
  | nil =>
    rcases List.prefix_cons_iff.1 h with rfl | ⟨ys, rfl, -⟩
    · exact List.nil_prefix
    · exact absurd List.mem_cons_self hx
  | cons y front ih =>
    rcases List.prefix_cons_iff.1 h with rfl | ⟨ys, rfl, hys⟩
    · exact List.nil_prefix
    · exact List.cons_prefix_cons.2 ⟨rfl, ih (fun hmem => hx (List.mem_cons_of_mem y hmem)) hys⟩

/-- A part that does not hold a separator lies in front of it or behind it. -/
theorem infix_of_infix_append_cons {front back : List α} (hx : x ∉ xs)
    (h : xs <:+: front ++ x :: back) : xs <:+: front ∨ xs <:+: back := by
  induction front with
  | nil =>
    rcases List.infix_cons_iff.1 h with hstart | hback
    · rw [← List.nil_append (x :: back)] at hstart
      exact .inl (prefix_of_prefix_append_cons hx hstart).isInfix
    · exact .inr hback
  | cons y front ih =>
    rcases List.infix_cons_iff.1 h with hstart | hrest
    · exact .inl (prefix_of_prefix_append_cons hx hstart).isInfix
    · exact (ih hrest).imp_left fun h => h.trans (List.suffix_cons y front).isInfix

end Separators

/-! ## Characters that stand for themselves -/

/-- A printable character of ASCII that stands for itself between quotation marks. -/
def IsVerbatim (c : Char) : Prop := 0x20 ≤ c.toNat ∧ c.toNat < 0x7F ∧ c ≠ '"' ∧ c ≠ '\\'

theorem IsVerbatim.not_isSigma (h : IsVerbatim c) : ¬IsSigma c := by
  rintro (rfl | rfl) <;> exact absurd h.2.1 (by decide)

theorem not_isVerbatim_ofNat {n : Nat} (h : 0x7F ≤ n) : ¬IsVerbatim (Char.ofNat n) := by
  by_cases hvalid : n.isValidChar
  · have hn : (Char.ofNat n).toNat = n := by rw [Char.ofNat, dif_pos hvalid]; rfl
    exact fun hc => absurd hc.2.1 (by omega)
  · have hn : (Char.ofNat n).toNat = 0 := by rw [Char.ofNat, dif_neg hvalid]; rfl
    exact fun hc => absurd hc.1 (by omega)

/-- Of the capitals beyond ASCII, the table moves the sign of the kelvin alone into ASCII. -/
theorem le_image_of_mem_lowerRuns {r : CaseRun} (h : r ∈ lowerRuns) :
    0x80 ≤ r.image ∨ r = ⟨0x212A, 0x212A, 1, 0x6B⟩ := by
  have hall : (lowerRuns.all fun r => 0x80 ≤ r.image || r == ⟨0x212A, 0x212A, 1, 0x6B⟩) = true := by
    decide +kernel
  simpa using List.all_eq_true.1 hall r h

theorem not_isVerbatim_apply {r : CaseRun} {n : Nat} (hr : r ∈ lowerRuns)
    (hcovers : r.covers n = true) (hn : n ≠ 0x212A) : ¬IsVerbatim (Char.ofNat (r.apply n)) := by
  rcases le_image_of_mem_lowerRuns hr with himage | rfl
  · refine not_isVerbatim_ofNat ?_
    rw [CaseRun.apply]
    omega
  · simp only [CaseRun.covers, Bool.and_eq_true, decide_eq_true_eq] at hcovers
    omega

/-- A character without a shape has one lowercase form, which has to be escaped, too, or is not of
ASCII. -/
theorem lowerLetter_of_isShapeless (h : isShapeless c = true) :
    ∃ d, lowerLetter c = [d] ∧ ¬IsVerbatim d := by
  unfold isShapeless at h
  unfold lowerLetter
  dsimp only at h ⊢
  by_cases hascii : c.toNat < 0x80
  · rw [if_pos hascii] at h ⊢
    have hcontrol : c.toNat < 0x20 ∨ c.toNat = 0x7F := by simpa using h
    rw [if_neg (by simp; omega)]
    exact ⟨c, rfl, fun hc => by have := hc.1; have := hc.2.1; omega⟩
  · rw [if_neg hascii] at h ⊢
    have hshape {n : Nat} (hn : inRanges shapelessRanges n = false) : c.toNat ≠ n := by
      rintro rfl
      rw [hn] at h
      cases h
    have hdot : c.toNat ≠ 0x130 := hshape (by decide +kernel)
    have hkelvin : c.toNat ≠ 0x212A := hshape (by decide +kernel)
    rw [if_neg (by simpa using hdot)]
    split
    · rename_i r hr
      have hcovers : r.covers c.toNat = true := by simpa using List.find?_some hr
      exact ⟨_, rfl, not_isVerbatim_apply (List.mem_of_find?_eq_some hr) hcovers hkelvin⟩
    · exact ⟨c, rfl, fun hc => by have := hc.2.1; omega⟩

/-- **A character stands for itself, or its lowercase form does not.** -/
theorem shown_cases (c : Char) :
    shown c = [c] ∨ c ≠ '\u03A3' ∧ ∃ d, lowerLetter c = [d] ∧ ¬IsVerbatim d := by
  unfold shown
  by_cases hquote : c = '"'
  · exact .inr ⟨by rw [hquote]; decide, c, by rw [hquote]; rfl, fun h => h.2.2.1 hquote⟩
  by_cases hback : c = '\\'
  · exact .inr ⟨by rw [hback]; decide, c, by rw [hback]; rfl, fun h => h.2.2.2 hback⟩
  rw [if_neg hquote, if_neg hback]
  by_cases hshape : isShapeless c = true
  · refine .inr ⟨?_, lowerLetter_of_isShapeless hshape⟩
    rintro rfl
    have hsigma : isShapeless '\u03A3' = false := by decide +kernel
    rw [hsigma] at hshape
    cases hshape
  · have hcontrol {d : Char} (hd : isShapeless d = true) : c ≠ d := fun h => hshape (h ▸ hd)
    rw [if_neg (hcontrol rfl), if_neg (hcontrol rfl), if_neg (hcontrol rfl), if_neg (hcontrol rfl),
      if_neg hshape]
    exact .inl rfl

/-! ## Parts between escapes -/

/-- No character of a text has to be escaped. -/
def IsUnescaped (cs : List Char) : Prop := ∀ c ∈ cs, shown c = [c]

theorem isUnescaped_nil : IsUnescaped [] := nofun

theorem IsUnescaped.flatMap_shown (h : IsUnescaped cs) : cs.flatMap shown = cs := by
  induction cs with
  | nil => rfl
  | cons c cs ih =>
    obtain ⟨hc, hcs⟩ := List.forall_mem_cons.1 h
    rw [List.flatMap_cons, hc, ih hcs, List.singleton_append]

/-- What verbatim characters spell in the lowercase form of a text behind an unescaped part, they
spell in that of an unescaped part of the whole. The induction is on the text behind, which an
escaped character cuts off from what was read. -/
theorem exists_infix_lowerFrom_append (verbatim : ∀ c ∈ needle, IsVerbatim c) (before : Bool)
    {read : List Char} (hread : IsUnescaped read)
    (found : needle <:+: lowerFrom before (read ++ cs)) :
    ∃ part, part <:+: read ++ cs ∧ IsUnescaped part ∧ needle <:+: lower part := by
  have plain : ∀ c ∈ needle, ¬IsSigma c := fun c hc => (verbatim c hc).not_isSigma
  induction cs generalizing before read with
  | nil =>
    obtain ⟨ds, heq, hforms⟩ := exists_lowerFrom_append before false read []
    rw [heq, lowerFrom, List.append_nil] at found
    exact ⟨read, (List.prefix_append ..).isInfix, hread,
      infix_of_sameForm (sameForms_symm hforms) plain found⟩
  | cons c cs ih =>
    rcases shown_cases c with hshown | ⟨hsigma, d, hlower, hd⟩
    · rw [List.append_cons] at found ⊢
      have hread : IsUnescaped (read ++ [c]) :=
        List.forall_mem_append.2 ⟨hread, List.forall_mem_singleton.2 hshown⟩
      exact ih before hread found
    · obtain ⟨ds, heq, hforms⟩ := exists_lowerFrom_append before false read (c :: cs)
      rw [heq, lowerFrom, lowerWithin, if_neg hsigma, hlower, List.singleton_append] at found
      rcases infix_of_infix_append_cons (fun hmem => hd (verbatim d hmem)) found with hread' | hcs
      · exact ⟨read, (List.prefix_append ..).isInfix, hread,
          infix_of_sameForm (sameForms_symm hforms) plain hread'⟩
      · obtain ⟨part, hpart, hunescaped, hneedle⟩ := ih _ isUnescaped_nil hcs
        exact ⟨part, hpart.trans ⟨read ++ [c], [], by simp⟩, hunescaped, hneedle⟩

/-- **What a text spells in lowercase, it spells between quotation marks, too**, if every character
of the spelling stands for itself there. -/
theorem infix_lower_quoted {s : String} (verbatim : ∀ c ∈ needle, IsVerbatim c)
    (found : needle <:+: lower s.toList) : needle <:+: lower (quoted s).toList := by
  obtain ⟨part, ⟨front, back, heq⟩, hunescaped, hneedle⟩ :=
    exists_infix_lowerFrom_append verbatim false isUnescaped_nil found
  refine infix_lower (fun c hc => (verbatim c hc).not_isSigma) hneedle ?_
  refine ⟨'"' :: front.flatMap shown, back.flatMap shown ++ ['"'], ?_⟩
  have hparts : s.toList = front ++ part ++ back := heq.symm
  rw [quoted, String.toList_ofList, hparts, List.flatMap_append, List.flatMap_append,
    hunescaped.flatMap_shown, List.cons_append, List.cons_append, List.append_assoc,
    List.append_assoc, List.append_assoc]

end BridgeWatch.Text
