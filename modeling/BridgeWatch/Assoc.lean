/-!
# Association lists

Finite maps as lists of keys and values with one entry a key. `put` replaces the entry of a key in
place or adds one at the end; `find?` looks a key up.
-/

namespace BridgeWatch.Assoc

variable {α β : Type} [DecidableEq α]

/-- The value of a key. -/
def find? (key : α) : List (α × β) → Option β
  | [] => none
  | (k, v) :: rest => if k = key then some v else find? key rest

/-- Gives a key a value. -/
def put (key : α) (value : β) : List (α × β) → List (α × β)
  | [] => [(key, value)]
  | (k, v) :: rest => if k = key then (k, value) :: rest else (k, v) :: put key value rest

@[simp]
theorem find?_put_self (key : α) (value : β) (m : List (α × β)) :
    find? key (put key value m) = some value := by
  induction m with
  | nil => simp [put, find?]
  | cons e m ih =>
    by_cases h : e.1 = key
    · simp [put, find?, h]
    · simp [put, find?, h, ih]

theorem find?_put_of_ne {key other : α} (h : other ≠ key) (value : β) (m : List (α × β)) :
    find? other (put key value m) = find? other m := by
  induction m with
  | nil => simp [put, find?, Ne.symm h]
  | cons e m ih =>
    by_cases hk : e.1 = key
    · simp [put, find?, hk, Ne.symm h]
    · by_cases ho : e.1 = other
      · simp [put, find?, ho, h]
      · simp [put, find?, hk, ho, ih]

/-- The keys of a map with one more entry. -/
theorem mem_keys_put {key other : α} {value : β} {m : List (α × β)} :
    other ∈ (put key value m).map Prod.fst ↔ other = key ∨ other ∈ m.map Prod.fst := by
  induction m with
  | nil => simp [put]
  | cons e m ih =>
    by_cases h : e.1 = key
    · simp [put, h]
    · simp only [put, h, if_false, List.map_cons, List.mem_cons, ih]
      constructor
      · rintro (h | h | h) <;> simp [h]
      · rintro (h | h | h) <;> simp [h]

theorem nodup_keys_put (key : α) (value : β) {m : List (α × β)} (h : (m.map Prod.fst).Nodup) :
    ((put key value m).map Prod.fst).Nodup := by
  induction m with
  | nil => simp [put]
  | cons e m ih =>
    rw [List.map_cons, List.nodup_cons] at h
    by_cases hk : e.1 = key
    · subst hk
      simp [put, h.1, h.2]
    · simp only [put, hk, if_false, List.map_cons, List.nodup_cons]
      exact ⟨fun hm => (mem_keys_put.1 hm).elim hk h.1, ih h.2⟩

end BridgeWatch.Assoc
