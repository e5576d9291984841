import BridgeWatch.Json.Basic
import Mathlib.Data.List.Forall2
import Mathlib.Data.List.Nodup

/-!
# Objects of a given shape

A shape names the members that an object has to have and says which values each of them may have.

* `Fits`: an object has these members, in any order, and members of other names besides.
* `Gives`: an object gives each of them exactly once, so that a record is made of it
  (`Record.exists_gives`) whose fields are read (`Record.Gives.required`).
* `Json.without`: an object without a member.
-/

namespace BridgeWatch.Json

/-- The members that an object has to have: their names, and what is asked of their values. -/
abbrev Shape := List (String × (Json → Prop))

namespace Shape

/-- The names of the members. -/
def names (shape : Shape) : List String := shape.map (·.1)

/-- A member has the name and a value that are asked for. -/
def Meets (f : String × (Json → Prop)) (m : String × Json) : Prop := m.1 = f.1 ∧ f.2 m.2

/-- An object has the members of a shape, in any order, and members of other names besides. -/
def Fits (shape : Shape) (ms : List (String × Json)) : Prop :=
  ∃ own others, ms.Perm (own ++ others) ∧ List.Forall₂ Meets shape own ∧
    ∀ m ∈ others, m.1 ∉ shape.names

variable {shape : Shape} {ms own : List (String × Json)} {f : String × (Json → Prop)}

/-- The members of a name. -/
def named (name : String) (ms : List (String × Json)) : List (String × Json) :=
  ms.filter fun m => m.1 == name

theorem named_eq_nil {name : String} (h : ∀ m ∈ ms, m.1 ≠ name) : named name ms = [] :=
  List.filter_eq_nil_iff.2 fun m hm => by simpa using h m hm

theorem names_eq_of_forall₂ (h : List.Forall₂ Meets shape own) :
    own.map (·.1) = shape.names := by
  induction h with
  | nil => rfl
  | cons hm _ ih => rw [List.map_cons, names, List.map_cons, hm.1, ih, names]

theorem named_of_forall₂ (h : List.Forall₂ Meets shape own)
    (distinct : shape.names.Nodup) (hf : f ∈ shape) :
    ∃ v, f.2 v ∧ named f.1 own = [(f.1, v)] := by
  induction h with
  | nil => cases hf
  | @cons g m shape own hm hrest ih =>
    rw [names, List.map_cons, List.nodup_cons] at distinct
    rcases List.mem_cons.1 hf with rfl | hf
    · refine ⟨m.2, hm.2, ?_⟩
      have hnone : named f.1 own = [] := by
        refine named_eq_nil fun n hn hname => distinct.1 ?_
        rw [← names, ← names_eq_of_forall₂ hrest, ← hname]
        exact List.mem_map_of_mem hn
      rw [named, List.filter_cons_of_pos (by simpa using hm.1), ← named, hnone, ← hm.1]
    · obtain ⟨v, hv, hnamed⟩ := ih distinct.2 hf
      refine ⟨v, hv, ?_⟩
      rw [named, List.filter_cons_of_neg]
      · exact hnamed
      · intro hname
        refine distinct.1 ?_
        rw [← hm.1, eq_of_beq hname]
        exact List.mem_map_of_mem hf

/-- An object gives each member of a shape exactly once. -/
def Gives (shape : Shape) (ms : List (String × Json)) : Prop :=
  ∀ f ∈ shape, ∃ v, f.2 v ∧ named f.1 ms = [(f.1, v)]

theorem Fits.gives (h : shape.Fits ms) (distinct : shape.names.Nodup) : shape.Gives ms := by
  intro f hf
  obtain ⟨own, others, perm, hown, hothers⟩ := h
  obtain ⟨v, hv, hnamed⟩ := named_of_forall₂ hown distinct hf
  refine ⟨v, hv, ?_⟩
  have hnone : named f.1 others = [] := by
    refine named_eq_nil fun m hm hname => hothers m hm ?_
    rw [hname]
    exact List.mem_map_of_mem hf
  have hperm : (named f.1 ms).Perm [(f.1, v)] := by
    have := perm.filter fun m => m.1 == f.1
    rwa [List.filter_append, ← named, ← named, ← named, hnamed, hnone] at this
  exact List.perm_singleton.1 hperm

theorem named_filter {name : String} {p : String × Json → Bool} (h : ∀ v, p (name, v) = true) :
    named name (ms.filter p) = named name ms := by
  rw [named, named, List.filter_filter]
  refine List.filter_congr fun m _ => ?_
  by_cases hm : m.1 = name
  · obtain ⟨n, v⟩ := m
    subst hm
    rw [h v, Bool.and_true]
  · rw [beq_eq_false_iff_ne.2 hm, Bool.false_and]

end Shape

namespace Record

open Shape (named)

variable {shape : Shape} {names : List String} {name : String} {ms : List (String × Json)}
  {r : Record}

/-- Members of which none of the known names occurs twice. -/
theorem nodup_known (h : ∀ name ∈ names, (named name ms).length ≤ 1) :
    ((ms.filter fun m => names.contains m.1).map (·.1)).Nodup := by
  induction ms with
  | nil => exact .nil
  | cons m ms ih =>
    have hrest : ∀ name ∈ names, (named name ms).length ≤ 1 := fun name hname =>
      Nat.le_trans (((List.sublist_cons_self m ms).filter _).length_le) (h name hname)
    by_cases hm : m.1 ∈ names
    · have honce := h m.1 hm
      rw [named, List.filter_cons_of_pos (by simp), List.length_cons] at honce
      have hnone : named m.1 ms = [] := List.length_eq_zero_iff.1
        (Nat.le_zero.1 (Nat.le_of_succ_le_succ honce))
      rw [List.filter_cons_of_pos (by simpa using hm), List.map_cons, List.nodup_cons]
      refine ⟨fun hmem => ?_, ih hrest⟩
      obtain ⟨n, hn, hname⟩ := List.mem_map.1 hmem
      have := List.filter_eq_nil_iff.1 hnone n (List.mem_of_mem_filter hn)
      simp [hname] at this
    · rw [List.filter_cons_of_neg (by simpa using hm)]
      exact ih hrest

/-- A record is made of members of which none of the known names occurs twice. -/
theorem exists_of?_eq_some (h : ∀ name ∈ names, (named name ms).length ≤ 1) :
    ∃ r, of? names (.obj ms) = some r :=
  ⟨_, if_pos (nodup_known h)⟩

/-- A field of a record is the member of its name. -/
theorem get?_of_of? (h : of? names (.obj ms) = some r) (hname : name ∈ names) :
    r.get? name = (named name ms).head?.map (·.2) := by
  have hr : r = ⟨ms.filter fun m => names.contains m.1⟩ := by
    change (if _ then some (Record.mk _) else none) = some r at h
    split at h
    · exact (Option.some.inj h).symm
    · cases h
  rw [get?, hr, ← List.head?_filter, ← named, Shape.named_filter fun _ => by simpa using hname]

/-- A record gives each field of a shape. -/
def Gives (shape : Shape) (r : Record) : Prop := ∀ f ∈ shape, ∃ v, f.2 v ∧ r.get? f.1 = some v

/-- A record is made of an object that gives each member of a shape exactly once. -/
theorem exists_gives (h : shape.Gives ms) :
    ∃ r, of? shape.names (.obj ms) = some r ∧ Gives shape r := by
  have hnames : ∀ name ∈ shape.names, (named name ms).length ≤ 1 := by
    intro name hname
    obtain ⟨f, hf, rfl⟩ := List.mem_map.1 hname
    obtain ⟨v, -, hnamed⟩ := h f hf
    rw [hnamed]
    exact Nat.le_refl 1
  obtain ⟨r, hr⟩ := exists_of?_eq_some hnames
  refine ⟨r, hr, fun f hf => ?_⟩
  obtain ⟨v, hv, hnamed⟩ := h f hf
  refine ⟨v, hv, ?_⟩
  rw [get?_of_of? hr (List.mem_map_of_mem hf), hnamed]
  rfl

/-- A field is read that is read from all that it may be. -/
theorem Gives.required {α : Type} {p : Json → Prop} {f : Json → Option α} {a : α}
    (h : Gives shape r) (hp : (name, p) ∈ shape) (hread : ∀ v, p v → f v = some a) :
    r.required name f = some a := by
  obtain ⟨v, hv, hget⟩ := h _ hp
  rw [Record.required, hget]
  exact hread v hv

theorem required_eq_none {α : Type} (h : of? names (.obj ms) = some r) (hname : name ∈ names)
    (hms : named name ms = []) (f : Json → Option α) : r.required name f = none := by
  rw [required, get?_of_of? h hname, hms]
  rfl

end Record

/-- A number of 64 bits is read back. -/
theorem word?_word (n : UInt64) : (word n).word? = some n := by
  show (if n.toNat < UInt64.size then some (UInt64.ofNat n.toNat) else none) = some n
  rw [if_pos n.toNat_lt, UInt64.ofNat_toNat]

/-! ## Objects changed -/

/-- An object without the members of a name. -/
def without (name : String) : Json → Json
  | .obj ms => .obj (ms.filter fun m => m.1 != name)
  | j => j

/-- A member with its value changed, if it has a given name. -/
def changed (name : String) (f : Json → Json) (m : String × Json) : String × Json :=
  if m.1 = name then (m.1, f m.2) else m

/-- An object with the values of the members of a name changed. -/
def mapMember (name : String) (f : Json → Json) : Json → Json
  | .obj ms => .obj (ms.map (changed name f))
  | j => j

namespace Shape

variable {ms : List (String × Json)} {name other : String}

theorem named_without (name : String) (ms : List (String × Json)) :
    named name (ms.filter fun m => m.1 != name) = [] := by
  refine named_eq_nil fun m hm => ?_
  simpa using (List.mem_filter.1 hm).2

theorem named_without_of_ne (h : other ≠ name) :
    named other (ms.filter fun m => m.1 != name) = named other ms :=
  named_filter fun _ => by simpa using h

theorem named_map_changed (other name : String) (f : Json → Json) :
    named other (ms.map (changed name f)) = (named other ms).map (changed name f) := by
  have hname (m : String × Json) : (changed name f m).1 = m.1 := by
    unfold changed
    split <;> rfl
  rw [named, List.filter_map, named]
  simp only [Function.comp_def, hname]

end Shape

end BridgeWatch.Json
