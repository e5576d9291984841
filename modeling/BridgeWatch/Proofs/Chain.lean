import BridgeWatch.Assoc
import BridgeWatch.Chain
import Mathlib.Data.String.Basic

/-!
# Maps in the order of their chains

* `ChainId.eq_of_not_before`: of two different chains, one comes before the other.
* `ChainId.pairwise_before_mergeSort`: a map sorted by its chains lists each chain before all that
  follow it.
* `Assoc.find?_eq_some_iff`: a map gives a key the value that is listed for it.
-/

namespace BridgeWatch

namespace ChainId

variable {a b : ChainId}

theorem before_eq_false_iff : a.before b = false ↔ b.text ≤ a.text :=
  decide_eq_false_iff_not.trans not_lt

/-- Of two different chains, one comes before the other. -/
theorem eq_of_not_before (hab : a.before b = false) (hba : b.before a = false) : a = b := by
  have h : a.text = b.text :=
    le_antisymm (before_eq_false_iff.1 hba) (before_eq_false_iff.1 hab)
  cases a
  cases b
  cases h
  rfl

/-- A map of distinct chains, sorted, lists each chain before all that follow it. -/
theorem pairwise_before_mergeSort {β : Type} {m : List (ChainId × β)}
    (h : (m.map Prod.fst).Nodup) :
    (m.mergeSort fun a b => !b.1.before a.1).Pairwise fun a b => a.1.before b.1 = true := by
  have hsorted : (m.mergeSort fun a b => !b.1.before a.1).Pairwise
      fun a b => (!b.1.before a.1) = true := by
    refine List.pairwise_mergeSort ?_ ?_ m
    · intro a b c hab hbc
      simp only [Bool.not_eq_true', before_eq_false_iff] at hab hbc ⊢
      exact le_trans hab hbc
    · intro a b
      simp only [Bool.or_eq_true, Bool.not_eq_true', before_eq_false_iff]
      exact le_total a.1.text b.1.text
  have hnodup : ((m.mergeSort fun a b => !b.1.before a.1).map Prod.fst).Nodup :=
    ((List.mergeSort_perm m _).map Prod.fst).nodup_iff.2 h
  rw [List.Nodup, List.pairwise_map] at hnodup
  refine (hsorted.and hnodup).imp ?_
  rintro a b ⟨hle, hne⟩
  rw [Bool.not_eq_true'] at hle
  cases hab : a.1.before b.1 with
  | true => rfl
  | false => exact absurd (eq_of_not_before hab hle) hne

end ChainId

namespace Assoc

variable {α β : Type} [DecidableEq α]

/-- In a map of distinct keys, the value of a key is the one that is listed for it. -/
theorem find?_eq_some_iff {m : List (α × β)} (h : (m.map Prod.fst).Nodup) {key : α} {value : β} :
    find? key m = some value ↔ (key, value) ∈ m := by
  induction m with
  | nil => simp [find?]
  | cons e m ih =>
    obtain ⟨k, v⟩ := e
    rw [List.map_cons, List.nodup_cons] at h
    by_cases hk : k = key
    · subst hk
      have hnot : (k, value) ∉ m := fun hm => h.1 (List.mem_map.2 ⟨_, hm, rfl⟩)
      simp [find?, hnot, eq_comm]
    · simp [find?, hk, Ne.symm hk, ih h.2]

end Assoc

end BridgeWatch
