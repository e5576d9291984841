import BridgeWatch.Proofs.Abi.Codec
import BridgeWatch.Schema.Basic

/-!
# Accepted schemas

What holds of a schema that was built from four configured texts, whatever the hash function:

* `Schema.Lists`: it lists a signature of each kind in order, under different topics, and the
  parameters of each can carry the fields of its kind (`Signature.CarriesFields`).
* `ofSettingsWith_lists`: a schema that is accepted does so.
* `lookup_eq_some_iff`, `signature_eq_some_iff`: looking up a topic or a kind finds the signature
  that has it.
-/

namespace BridgeWatch

theorem exists_of_bind_eq_ok {ε α β : Type} {x : Except ε α} {f : α → Except ε β} {b : β}
    (h : (x >>= f) = .ok b) : ∃ a, x = .ok a ∧ f a = .ok b := by
  cases x with
  | error e => cases h
  | ok a => exact ⟨a, rfl, h⟩

theorem exists_of_map_eq_ok {ε α β : Type} {x : Except ε α} {f : α → β} {b : β}
    (h : x.map f = .ok b) : ∃ a, x = .ok a ∧ f a = b := by
  cases x with
  | error e => cases h
  | ok a => exact ⟨a, rfl, Except.ok.inj h⟩

theorem exists_of_forall₂_mem {α β : Type} {R : α → β → Prop} {xs : List α} {ys : List β}
    (h : List.Forall₂ R xs ys) {y : β} (hy : y ∈ ys) : ∃ x ∈ xs, R x y := by
  induction h with
  | nil => cases hy
  | @cons x y' xs ys hxy _ ih =>
    rcases List.mem_cons.1 hy with rfl | hy
    · exact ⟨x, List.mem_cons_self, hxy⟩
    · obtain ⟨x', hx', hR⟩ := ih hy
      exact ⟨x', List.mem_cons_of_mem _ hx', hR⟩

namespace Signature

/-- Each parameter of a signature can carry its field. -/
def CarriesFields (sig : Signature) : Prop :=
  List.Forall₂ (fun f t => Field.accepts f t = true) (fieldLayout sig.kind) sig.params

/-- Of as many parameters as fields, none is a misfit exactly when each can carry its field. -/
theorem misfit?_eq_none_iff (text : List Char) (index : Nat) {fields : List Field}
    {types : List Abi.ParamType} (length : types.length = fields.length) :
    misfit? text index fields types = none ↔
      List.Forall₂ (fun f t => Field.accepts f t = true) fields types := by
  induction fields generalizing index types with
  | nil =>
    rw [List.length_eq_zero_iff.1 length]
    simp [misfit?]
  | cons f fields ih =>
    cases types with
    | nil => cases length
    | cons t types =>
      rw [misfit?, List.forall₂_cons, ← ih (index + 1) (Nat.succ.inj length)]
      split
      · rename_i h
        rw [h]
        simp
      · rename_i h
        simp [h]

/-- The layout is accepted exactly when each parameter can carry its field. -/
theorem checkLayout_eq_ok_iff {kind : EventKind} {text : List Char}
    {types : List Abi.ParamType} : checkLayout kind text types = .ok () ↔
      List.Forall₂ (fun f t => Field.accepts f t = true) (fieldLayout kind) types := by
  unfold checkLayout
  split
  · rename_i h
    simp only [reduceCtorEq, false_iff]
    exact fun hf => h hf.length_eq.symm
  · rename_i h
    rw [← misfit?_eq_none_iff text 0 (Decidable.not_not.1 h)]
    split
    · rename_i hm
      simp [hm]
    · rename_i hm
      simp [hm]

/-- A text that is read as a signature of a kind gives one whose parameters can carry the fields of
the kind, under the topic of its canonical text. -/
theorem carriesFields_of_parseWith {topicOf : String → Hash} {kind : EventKind} {cs : List Char}
    {sig : Signature} (h : parseWith topicOf kind cs = .ok sig) :
    sig.kind = kind ∧ sig.CarriesFields ∧ sig.topic = topicOf sig.canonical := by
  obtain ⟨⟨name, inner⟩, -, h⟩ := exists_of_bind_eq_ok h
  obtain ⟨params, -, h⟩ := exists_of_bind_eq_ok h
  obtain ⟨⟨⟩, hlayout, h⟩ := exists_of_bind_eq_ok h
  cases h
  exact ⟨rfl, checkLayout_eq_ok_iff.1 hlayout, rfl⟩

/-- A byte string of fixed size that can carry a field fits in one word. -/
theorem isWordSized_of_accepts {f : Field} {t : Abi.ParamType} (h : f.accepts t = true) :
    t.IsWordSized := by
  cases t with
  | fixedBytes size =>
    cases f with
    | hash =>
      obtain rfl : size = 32 := by simpa [Field.accepts] using h
      exact ⟨by decide, by decide⟩
    | sender | recipient | amount | chainRef | message => cases h
  | _ => trivial

theorem CarriesFields.isWordSized {sig : Signature} (h : sig.CarriesFields) :
    ∀ t ∈ sig.params, t.IsWordSized := by
  unfold CarriesFields at h
  generalize fieldLayout sig.kind = fields, sig.params = types at h ⊢
  induction h with
  | nil => simp
  | cons hf _ ih => exact List.forall_mem_cons.2 ⟨isWordSized_of_accepts hf, ih⟩

end Signature

namespace Schema

/-- A schema lists a signature of each of some kinds, in order. -/
structure Lists (s : Schema) (kinds : List EventKind) : Prop where
  kinds : s.signatures.map (·.kind) = kinds
  topics : (s.signatures.map (·.topic)).Nodup
  carriesFields : ∀ sig ∈ s.signatures, sig.CarriesFields

variable {topicOf : String → Hash} {s s' : Schema} {kinds : List EventKind}

/-- Keys stay different when an element with a new key is added. -/
theorem nodup_map_concat {α β : Type} {key : α → β} {l : List α} {a : α}
    (h : (l.map key).Nodup) (fresh : ∀ x ∈ l, key x ≠ key a) : ((l ++ [a]).map key).Nodup := by
  rw [List.map_append, List.map_singleton, List.nodup_append]
  refine ⟨h, List.pairwise_singleton .., ?_⟩
  simpa using fresh

/-- A schema keeps its form when the signature of one more kind is added. -/
theorem Lists.add (h : s.Lists kinds) {kind : EventKind} {text : String}
    (ha : s.add topicOf kind text = .ok s') : s'.Lists (kinds ++ [kind]) := by
  unfold Schema.add at ha
  split at ha
  · cases ha
  · rename_i sig hsig
    obtain ⟨hkind, hfields, -⟩ := Signature.carriesFields_of_parseWith hsig
    split at ha
    · cases ha
    · rename_i hnew
      cases ha
      have hfresh : ∀ other ∈ s.signatures, other.topic ≠ sig.topic := by
        simpa [lookup] using hnew
      refine ⟨?_, ?_, ?_⟩
      · simp [h.kinds, hkind]
      · exact nodup_map_concat h.topics hfresh
      · rw [List.forall_mem_append, List.forall_mem_singleton]
        exact ⟨h.carriesFields, hfields⟩

theorem Lists.addAll (h : s.Lists kinds) {settings : SchemaSettings} {more : List EventKind}
    (ha : s.addAll topicOf settings more = .ok s') : s'.Lists (kinds ++ more) := by
  induction more generalizing s kinds with
  | nil =>
    cases ha
    rwa [List.append_nil]
  | cons kind more ih =>
    rw [Schema.addAll] at ha
    split at ha
    · cases ha
    · rename_i hadd
      rw [← List.singleton_append, ← List.append_assoc]
      exact ih (h.add hadd) ha

/-- **An accepted schema lists a signature of each kind**, under different topics, each with
parameters that can carry the fields of its kind. -/
theorem ofSettingsWith_lists {settings : SchemaSettings}
    (h : ofSettingsWith topicOf settings = .ok s) : s.Lists EventKind.all := by
  have hnone : (⟨[]⟩ : Schema).Lists [] :=
    ⟨rfl, List.nodup_nil, fun _ hs => (List.not_mem_nil hs).elim⟩
  exact hnone.addAll h

/-- Of elements with different keys, the one with a given key is found. -/
theorem find?_eq_some_iff_of_nodup {α β : Type} [BEq β] [LawfulBEq β] {key : α → β} {l : List α}
    (h : (l.map key).Nodup) {b : β} {a : α} :
    l.find? (fun x => key x == b) = some a ↔ a ∈ l ∧ key a = b := by
  induction l with
  | nil => simp
  | cons x l ih =>
    rw [List.map_cons, List.nodup_cons] at h
    rw [List.find?_cons]
    by_cases hx : key x = b
    · have hne : ∀ y ∈ l, key y ≠ b := fun y hy hyb =>
        h.1 (hx.trans hyb.symm ▸ List.mem_map_of_mem hy)
      simp only [hx, beq_self_eq_true, Option.some.injEq, List.mem_cons]
      constructor
      · rintro rfl
        exact ⟨.inl rfl, hx⟩
      · rintro ⟨rfl | ha, hb⟩
        · rfl
        · exact absurd hb (hne a ha)
    · rw [beq_false_of_ne hx]
      simp only [ih h.2, List.mem_cons]
      constructor
      · rintro ⟨ha, hb⟩
        exact ⟨.inr ha, hb⟩
      · rintro ⟨rfl | ha, hb⟩
        · exact absurd hb hx
        · exact ⟨ha, hb⟩

namespace Lists

/-- Looking a topic up finds the signature that has it. -/
theorem lookup_eq_some_iff (h : s.Lists kinds) {topic : Hash} {sig : Signature} :
    s.lookup topic = some sig ↔ sig ∈ s.signatures ∧ sig.topic = topic :=
  find?_eq_some_iff_of_nodup h.topics

/-- The signature of a kind is the one that is listed for it. -/
theorem signature_eq_some_iff (h : s.Lists kinds) (distinct : kinds.Nodup) {kind : EventKind}
    {sig : Signature} : s.signature kind = some sig ↔ sig ∈ s.signatures ∧ sig.kind = kind :=
  find?_eq_some_iff_of_nodup (h.kinds.symm ▸ distinct)

/-- Each of the kinds has a signature. -/
theorem exists_signature (h : s.Lists kinds) (distinct : kinds.Nodup) {kind : EventKind}
    (mem : kind ∈ kinds) : ∃ sig, s.signature kind = some sig := by
  rw [← h.kinds] at mem
  obtain ⟨sig, hsig, rfl⟩ := List.mem_map.1 mem
  exact ⟨sig, (h.signature_eq_some_iff distinct).2 ⟨hsig, rfl⟩⟩

end Lists

end Schema

end BridgeWatch
