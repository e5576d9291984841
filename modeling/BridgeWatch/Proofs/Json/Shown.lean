import BridgeWatch.Json.Shown
import Mathlib.Data.String.Basic

/-!
# What is shown of a value

* `quoted_infix_shown`: every text in a value is quoted in what is shown of it.
* `pairwise_collectedMembers`, `find?_collectedMembers`: of a collected object, the members stand in
  the order of their names, one a name, the last that the object has for it.
-/

namespace BridgeWatch.Json

variable {name other : String} {w : List Char} {ws : List (List Char)}

/-! ## Texts -/

/-- What is listed is in the list. -/
theorem infix_listed (h : w ∈ ws) : w <:+: listed ws := by
  induction ws with
  | nil => cases h
  | cons v ws ih =>
    cases ws with
    | nil => exact List.mem_singleton.1 h ▸ List.infix_refl w
    | cons u ws =>
      rcases List.mem_cons.1 h with rfl | h
      · exact (List.prefix_append ..).isInfix
      · exact (ih h).trans ⟨v ++ [',', ' '], [], by simp [listed]⟩

mutual

/-- **Every text in a value is quoted in what is shown of it.** -/
theorem quoted_infix_shown {s : String} : {j : Json} → s ∈ texts j →
    (Text.quoted s).toList <:+: shown j
  | .str t, h => by
    obtain rfl : s = t := List.mem_singleton.1 h
    exact ⟨"String(".toList, [')'], rfl⟩
  | .arr xs, h => by
    obtain ⟨w, hw, hs⟩ := exists_shownElements h
    exact (hs.trans (infix_listed hw)).trans ⟨"Array [".toList, [']'], rfl⟩
  | .obj ms, h => by
    obtain ⟨w, hw, hs⟩ := exists_shownMembers h
    exact (hs.trans (infix_listed hw)).trans ⟨"Object \x7b".toList, ['\x7d'], rfl⟩

theorem exists_shownElements {s : String} : {xs : List Json} → s ∈ textsOfElements xs →
    ∃ w ∈ shownElements xs, (Text.quoted s).toList <:+: w
  | x :: xs, h => by
    rcases List.mem_append.1 h with h | h
    · exact ⟨shown x, List.mem_cons_self, quoted_infix_shown h⟩
    · obtain ⟨w, hw, hs⟩ := exists_shownElements h
      exact ⟨w, List.mem_cons_of_mem _ hw, hs⟩

theorem exists_shownMembers {s : String} : {ms : List (String × Json)} → s ∈ textsOfMembers ms →
    ∃ w ∈ shownMembers ms, (Text.quoted s).toList <:+: w
  | (name, x) :: ms, h => by
    rcases List.mem_cons.1 h with rfl | h
    · exact ⟨_, List.mem_cons_self, (List.prefix_append ..).isInfix⟩
    rcases List.mem_append.1 h with h | h
    · exact ⟨_, List.mem_cons_self, (quoted_infix_shown h).trans
        ⟨(Text.quoted name).toList ++ [':', ' '], [], by simp⟩⟩
    · obtain ⟨w, hw, hs⟩ := exists_shownMembers h
      exact ⟨w, List.mem_cons_of_mem _ hw, hs⟩

end

/-! ## Collected members -/

theorem mem_keys_place {j : Json} {ms : List (String × Json)} :
    other ∈ (place name j ms).map Prod.fst ↔ other = name ∨ other ∈ ms.map Prod.fst := by
  induction ms with
  | nil => simp [place]
  | cons m ms ih =>
    rw [place]
    split
    · simp
    · split
      · rename_i heq
        simp only [List.map_cons, List.mem_cons, ← heq, or_self_left]
      · rw [List.map_cons, List.mem_cons, ih, List.map_cons, List.mem_cons]
        exact or_left_comm

theorem pairwise_place {j : Json} {ms : List (String × Json)}
    (h : (ms.map Prod.fst).Pairwise (· < ·)) :
    ((place name j ms).map Prod.fst).Pairwise (· < ·) := by
  induction ms with
  | nil => simp [place]
  | cons m ms ih =>
    obtain ⟨hm, hms⟩ := List.pairwise_cons.1 h
    rw [place]
    split
    · rename_i hlt
      refine List.pairwise_cons.2 ⟨fun other hother => ?_, h⟩
      rcases List.mem_cons.1 hother with rfl | hother
      · exact hlt
      · exact hlt.trans (hm other hother)
    · split
      · exact h
      · rename_i hnlt hne
        refine List.pairwise_cons.2 ⟨fun other hother => ?_, ih hms⟩
        rcases mem_keys_place.1 hother with rfl | hother
        · exact lt_of_le_of_ne (not_lt.1 hnlt) (Ne.symm hne)
        · exact hm other hother

/-- The members of a collected object stand in the order of their names, one a name. -/
theorem pairwise_collectedMembers (ms : List (String × Json)) :
    ((collectedMembers ms).map Prod.fst).Pairwise (· < ·) := by
  induction ms with
  | nil => exact List.Pairwise.nil
  | cons m ms ih => exact pairwise_place ih

theorem find?_place {j : Json} {ms : List (String × Json)}
    (h : (ms.map Prod.fst).Pairwise (· < ·)) : (place name j ms).find? (·.1 == other) =
      (ms.find? (·.1 == other)).or (if name = other then some (name, j) else none) := by
  induction ms with
  | nil => simp [place]
  | cons m ms ih =>
    obtain ⟨hm, hms⟩ := List.pairwise_cons.1 h
    rw [place]
    split
    · rename_i hlt
      by_cases hname : name = other
      · have hnone : (m :: ms).find? (·.1 == other) = none := by
          simp only [List.find?_eq_none, beq_iff_eq, List.mem_cons]
          rintro e (rfl | he) rfl
          · exact hlt.ne hname
          · exact (hlt.trans (hm _ (List.mem_map_of_mem he))).ne hname
        rw [hnone, List.find?_cons_of_pos (by simpa using hname), if_pos hname, Option.none_or]
      · rw [List.find?_cons_of_neg (by simpa using hname), if_neg hname, Option.or_none]
    · split
      · rename_i heq
        by_cases hname : name = other
        · rw [List.find?_cons_of_pos (by simpa [← heq] using hname), Option.some_or]
        · rw [if_neg hname, Option.or_none]
      · by_cases hfirst : m.1 = other
        · rw [List.find?_cons_of_pos (by simpa using hfirst),
            List.find?_cons_of_pos (by simpa using hfirst), Option.some_or]
        · rw [List.find?_cons_of_neg (by simpa using hfirst),
            List.find?_cons_of_neg (by simpa using hfirst), ih hms]

/-- A collected object has the last member that the object has for a name. -/
theorem find?_collectedMembers (ms : List (String × Json)) :
    (collectedMembers ms).find? (·.1 == name) =
      (ms.reverse.find? (·.1 == name)).map fun m => (m.1, m.2.collected) := by
  induction ms with
  | nil => rfl
  | cons m ms ih =>
    rw [collectedMembers, find?_place (pairwise_collectedMembers ms), ih, List.reverse_cons,
      List.find?_append, Option.map_or, List.find?_singleton]
    simp only [beq_iff_eq, apply_ite (Option.map _), Option.map_some, Option.map_none]

end BridgeWatch.Json
