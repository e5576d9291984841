import BridgeWatch.Proofs.Text.Hex
import BridgeWatch.Text.Lowercase
import BridgeWatch.Text.Search
import Mathlib.Data.List.Forall2

/-!
# Texts in lowercase

The lowercase form of a text does not depend on the case of its ASCII letters, and a letter's form
depends on what is around it only if the letter is a sigma.

* `lower_map_toLower`: the ASCII letters can be put into lowercase first.
* `exists_lowerFrom_append`: a text is put into lowercase inside another one as on its own, up to
  the forms of sigmas.
* `infix_lower`: what stands in the lowercase form of a text, without a sigma, stands in that of
  every text around it.
-/

namespace BridgeWatch.Text

variable {c d : Char} {cs ds needle text : List Char}

/-! ## ASCII letters -/

/-- `Char.toLower` changes the capitals of ASCII alone. -/
theorem toLower_cases (c : Char) :
    c.toLower = c ∨ 65 ≤ c.toNat ∧ c.toNat ≤ 90 ∧ c.toLower.toNat = c.toNat + 32 := by
  have h := Hex.toNat_toLower c
  split at h
  · rename_i hcapital
    exact .inr ⟨hcapital.1, hcapital.2, h⟩
  · exact .inl (Char.toNat_inj.1 h)

theorem isCaseIgnorable_toLower (c : Char) : isCaseIgnorable c.toLower = isCaseIgnorable c := by
  rcases toLower_cases c with h | ⟨first, last, h⟩
  · rw [h]
  · unfold isCaseIgnorable
    dsimp only
    rw [h, if_pos (by omega), if_pos (by omega), Bool.eq_iff_iff]
    simp only [Bool.or_eq_true, beq_iff_eq]
    omega

theorem isCased_toLower (c : Char) : isCased c.toLower = isCased c := by
  rcases toLower_cases c with h | ⟨first, last, h⟩
  · rw [h]
  · unfold isCased
    dsimp only
    rw [h, if_pos (by omega), if_pos (by omega), Bool.eq_iff_iff]
    simp only [Bool.or_eq_true, Bool.and_eq_true, decide_eq_true_eq]
    omega

theorem lowerLetter_toLower (c : Char) : lowerLetter c.toLower = lowerLetter c := by
  rcases toLower_cases c with h | ⟨first, last, h⟩
  · rw [h]
  · have hcapital : lowerLetter c = [Char.ofNat (c.toNat + 32)] := by
      unfold lowerLetter
      dsimp only
      rw [if_pos (by omega), if_pos (by simp [first, last])]
    have hsmall : lowerLetter c.toLower = [c.toLower] := by
      unfold lowerLetter
      dsimp only
      rw [if_pos (by omega), if_neg (by simp; omega)]
    rw [hcapital, hsmall, ← h, Char.ofNat_toNat]

theorem casedAhead_map_toLower (cs : List Char) :
    casedAhead (cs.map Char.toLower) = casedAhead cs := by
  induction cs with
  | nil => rfl
  | cons c cs ih =>
    rw [List.map_cons, casedAhead, casedAhead, isCaseIgnorable_toLower, isCased_toLower, ih]

theorem toLower_eq_sigma_iff : c.toLower = '\u03A3' ↔ c = '\u03A3' := by
  rcases toLower_cases c with h | ⟨first, last, h⟩
  · rw [h]
  · have hsigma : '\u03A3'.toNat = 931 := rfl
    constructor
    · intro heq
      rw [heq] at h
      omega
    · rintro rfl
      omega

theorem lowerWithin_toLower (before : Bool) (c : Char) (after : List Char) :
    lowerWithin before c.toLower (after.map Char.toLower) = lowerWithin before c after := by
  rw [lowerWithin, lowerWithin, casedAhead_map_toLower, lowerLetter_toLower]
  simp only [toLower_eq_sigma_iff]

theorem lowerFrom_map_toLower (before : Bool) (cs : List Char) :
    lowerFrom before (cs.map Char.toLower) = lowerFrom before cs := by
  induction cs generalizing before with
  | nil => rfl
  | cons c cs ih =>
    rw [List.map_cons, lowerFrom, lowerFrom, lowerWithin_toLower, casedBehind,
      isCaseIgnorable_toLower, isCased_toLower, ih, casedBehind]

/-- The ASCII letters of a text can be put into lowercase first. -/
theorem lower_map_toLower (cs : List Char) : lower (cs.map Char.toLower) = lower cs :=
  lowerFrom_map_toLower false cs

/-! ## What is around a text -/

/-- A small sigma, the final form or the other one. -/
def IsSigma (c : Char) : Prop := c = '\u03C2' ∨ c = '\u03C3'

/-- The same character, or two small sigmas. -/
def SameForm (c d : Char) : Prop := c = d ∨ IsSigma c ∧ IsSigma d

theorem sameForms_symm (h : List.Forall₂ SameForm cs ds) : List.Forall₂ SameForm ds cs :=
  List.Forall₂.flip (h.imp fun _ _ h => h.imp Eq.symm And.symm)

theorem SameForm.eq (h : SameForm c d) (hd : ¬IsSigma d) : c = d :=
  h.resolve_right fun h => hd h.2

theorem forall₂_lowerWithin (before before' : Bool) (c : Char) (after after' : List Char) :
    List.Forall₂ SameForm (lowerWithin before c after) (lowerWithin before' c after') := by
  unfold lowerWithin
  split
  · have hform (p : Prop) [Decidable p] : IsSigma (if p then '\u03C2' else '\u03C3') := by
      split
      · exact .inl rfl
      · exact .inr rfl
    exact .cons (.inr ⟨hform _, hform _⟩) .nil
  · exact List.forall₂_same.2 fun _ _ => .inl rfl

/-- **What is around a text changes nothing but the forms of its sigmas.** -/
theorem exists_lowerFrom_append (before before' : Bool) (cs after : List Char) :
    ∃ ds, lowerFrom before (cs ++ after) =
        ds ++ lowerFrom (cs.foldl casedBehind before) after ∧
      List.Forall₂ SameForm ds (lowerFrom before' cs) := by
  induction cs generalizing before before' with
  | nil => exact ⟨[], rfl, .nil⟩
  | cons c cs ih =>
    obtain ⟨ds, heq, hforms⟩ := ih (casedBehind before c) (casedBehind before' c)
    refine ⟨lowerWithin before c (cs ++ after) ++ ds, ?_, ?_⟩
    · rw [List.cons_append, lowerFrom, heq, List.append_assoc]
      rfl
    · exact List.rel_append (forall₂_lowerWithin before before' c _ cs) hforms

theorem eq_of_sameForm (h : List.Forall₂ SameForm ds cs) (plain : ∀ c ∈ cs, ¬IsSigma c) :
    ds = cs := by
  induction h with
  | nil => rfl
  | cons hc _ ih =>
    obtain ⟨plain, rest⟩ := List.forall_mem_cons.1 plain
    rw [hc.eq plain, ih rest]

/-- A text without sigmas is found wherever the forms of sigmas are the only difference. -/
theorem infix_of_sameForm (h : List.Forall₂ SameForm ds cs) (plain : ∀ c ∈ needle, ¬IsSigma c)
    (found : needle <:+: cs) : needle <:+: ds := by
  obtain ⟨front, back, rfl⟩ := found
  have hfound := List.forall₂_drop_append _ _ _ (List.forall₂_take_append _ _ _ h)
  rw [← eq_of_sameForm hfound plain]
  exact ((List.drop_suffix _ _).isInfix).trans (List.take_prefix _ _).isInfix

/-- **What is found in the lowercase form of a text is found in that of every text around it**,
unless a sigma is in it. -/
theorem infix_lower (plain : ∀ c ∈ needle, ¬IsSigma c) (found : needle <:+: lower cs)
    (inside : cs <:+: text) : needle <:+: lower text := by
  obtain ⟨a, b, rfl⟩ := inside
  obtain ⟨front, hfront, -⟩ := exists_lowerFrom_append false false a (cs ++ b)
  obtain ⟨ds, hds, hforms⟩ := exists_lowerFrom_append (a.foldl casedBehind false) false cs b
  rw [lower, List.append_assoc, hfront, hds]
  exact (infix_of_sameForm hforms plain found).trans ⟨front, _, List.append_assoc ..⟩

end BridgeWatch.Text
