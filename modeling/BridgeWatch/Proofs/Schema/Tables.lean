import BridgeWatch.Proofs.Schema.Acceptance

/-!
# Schemas as tables of topics

A schema is a table that is filled with the signature of one kind after the other, each under its
topic. Neither the hash function nor the order in which the table keeps what it holds matters:
`Fills` lets the table change that order whenever it is used.

* `Tabulates`: the table holds what the texts of some kinds are read as, under different topics.
* `Refuses`: the text of a kind is no signature, or its topic is that of an earlier kind.
* `Fills.cases`: a table is filled, or filling it ends at the first kind that is refused.
* `fills_one_topic_each`: which texts make a schema, what is found in it, and what is wrong with
  texts that make none.
-/

namespace BridgeWatch

/-- What the configured text of a kind is read as. -/
def SchemaSettings.read (topicOf : String → Hash) (settings : SchemaSettings) (kind : EventKind) :
    Except SignatureFault Signature :=
  Signature.parseWith topicOf kind (settings.text kind).toList

namespace Schema

/-- Filling a table with the signatures of some kinds, when the table may put what it holds in
another order at any time. -/
inductive Fills (topicOf : String → Hash) (settings : SchemaSettings) :
    Schema → List EventKind → Except SchemaFault Schema → Prop
  | done {s t : Schema} (order : t.signatures.Perm s.signatures) :
    Fills topicOf settings s [] (.ok t)
  | refused {s t : Schema} {kind : EventKind} {kinds : List EventKind} {fault : SchemaFault}
    (order : t.signatures.Perm s.signatures)
    (refusal : t.add topicOf kind (settings.text kind) = .error fault) :
    Fills topicOf settings s (kind :: kinds) (.error fault)
  | added {s t u : Schema} {kind : EventKind} {kinds : List EventKind}
    {result : Except SchemaFault Schema} (order : t.signatures.Perm s.signatures)
    (addition : t.add topicOf kind (settings.text kind) = .ok u)
    (rest : Fills topicOf settings u kinds result) :
    Fills topicOf settings s (kind :: kinds) result

/-- Why the signature of a kind is refused behind those of earlier kinds. -/
inductive Refuses (topicOf : String → Hash) (settings : SchemaSettings) (earlier : List EventKind)
    (kind : EventKind) : SchemaFault → Prop
  /-- The text is no signature of the kind. -/
  | unreadable {cause : SignatureFault} (h : settings.read topicOf kind = .error cause) :
    Refuses topicOf settings earlier kind (.signature cause)
  /-- The signature of an earlier kind has the topic. -/
  | taken {other : EventKind} {known sig : Signature} (mem : other ∈ earlier)
    (holder : settings.read topicOf other = .ok known) (h : settings.read topicOf kind = .ok sig)
    (same : known.topic = sig.topic) :
    Refuses topicOf settings earlier kind (.sharedTopic other kind sig.canonical)

/-- The text of each of some kinds is a signature of the kind, under a topic that no other of them
has. -/
structure HasTopics (topicOf : String → Hash) (settings : SchemaSettings) (kinds : List EventKind) :
    Prop where
  reads : ∀ kind ∈ kinds, ∃ sig, settings.read topicOf kind = .ok sig
  distinct : ∀ kind ∈ kinds, ∀ other ∈ kinds, ∀ sig known, settings.read topicOf kind = .ok sig →
    settings.read topicOf other = .ok known → sig.topic = known.topic → kind = other

/-- A table holds what the texts of some kinds are read as, under different topics. -/
structure Tabulates (topicOf : String → Hash) (settings : SchemaSettings) (s : Schema)
    (kinds : List EventKind) : Prop where
  reads : ∀ kind ∈ kinds, ∃ sig, settings.read topicOf kind = .ok sig
  mem_iff : ∀ sig, sig ∈ s.signatures ↔ ∃ kind ∈ kinds, settings.read topicOf kind = .ok sig
  topics : (s.signatures.map (·.topic)).Nodup
  kinds : (s.signatures.map (·.kind)).Nodup

variable {topicOf : String → Hash} {settings : SchemaSettings} {s t : Schema}
  {kind other : EventKind} {kinds earlier : List EventKind} {sig known : Signature}
  {fault : SchemaFault} {result : Except SchemaFault Schema}

/-- What the text of a kind is read as is a signature of the kind. -/
theorem kind_of_read (h : settings.read topicOf kind = .ok sig) : sig.kind = kind :=
  (Signature.carriesFields_of_parseWith h).1

/-- Filling a table in the order in which it is filled is one way to fill it. -/
theorem fills_addAll (s : Schema) (kinds : List EventKind) :
    Fills topicOf settings s kinds (s.addAll topicOf settings kinds) := by
  induction kinds generalizing s with
  | nil => exact .done (.refl _)
  | cons kind kinds ih =>
    rw [addAll]
    cases h : s.add topicOf kind (settings.text kind) with
    | error fault => exact .refused (.refl _) h
    | ok t => exact .added (.refl _) h (ih t)

/-! ## Refusals -/

theorem notMem_of_nodup {before after : List EventKind} (h : (before ++ kind :: after).Nodup) :
    kind ∉ before := fun hmem =>
  (List.nodup_append.1 h).2.2 kind hmem kind List.mem_cons_self rfl

namespace HasTopics

/-- No kind is refused behind others that share no topic with it. -/
theorem not_refuses (h : HasTopics topicOf settings kinds) (hk : kind ∈ kinds)
    (he : ∀ other ∈ earlier, other ∈ kinds) (hnew : kind ∉ earlier) :
    ¬Refuses topicOf settings earlier kind fault := by
  intro hr
  cases hr with
  | unreadable hread =>
    obtain ⟨sig, hsig⟩ := h.reads kind hk
    rw [hsig] at hread
    cases hread
  | @taken other known sig mem holder hread same =>
    obtain rfl := h.distinct other (he other mem) kind hk known sig holder hread same
    exact hnew mem

theorem not_refuses_before {before after : List EventKind}
    (h : HasTopics topicOf settings (before ++ kind :: after))
    (distinct : (before ++ kind :: after).Nodup) :
    ¬Refuses topicOf settings before kind fault :=
  h.not_refuses (by simp) (fun _ ho => List.mem_append_left _ ho) (notMem_of_nodup distinct)

/-- There is one way at most in which a kind is refused behind others. -/
theorem refuses_unique {fault' : SchemaFault} (h : HasTopics topicOf settings earlier)
    (hr : Refuses topicOf settings earlier kind fault)
    (hr' : Refuses topicOf settings earlier kind fault') : fault = fault' := by
  cases hr with
  | unreadable hread =>
    cases hr' with
    | unreadable hread' =>
      rw [hread] at hread'
      cases hread'
      rfl
    | taken _ _ hread' _ =>
      rw [hread] at hread'
      cases hread'
  | @taken other known sig mem holder hread same =>
    cases hr' with
    | unreadable hread' =>
      rw [hread] at hread'
      cases hread'
    | @taken other' known' _ mem' holder' hread' same' =>
      rw [hread] at hread'
      cases hread'
      rw [h.distinct other mem other' mem' known known' holder holder' (same.trans same'.symm)]

end HasTopics

/-! ## Filling a table -/

namespace Tabulates

theorem empty : Tabulates topicOf settings ⟨[]⟩ [] := by
  refine ⟨?_, ?_, List.nodup_nil, List.nodup_nil⟩
  · intro kind hk
    cases hk
  · intro sig
    simp

/-- The order of a table does not matter. -/
theorem perm (h : Tabulates topicOf settings s kinds) (order : t.signatures.Perm s.signatures) :
    Tabulates topicOf settings t kinds := by
  refine ⟨h.reads, ?_, ?_, ?_⟩
  · intro sig
    rw [order.mem_iff]
    exact h.mem_iff sig
  · exact (order.map _).nodup_iff.2 h.topics
  · exact (order.map _).nodup_iff.2 h.kinds

theorem lookup_iff (h : Tabulates topicOf settings s kinds) {topic : Hash} :
    s.lookup topic = some sig ↔
      (∃ kind ∈ kinds, settings.read topicOf kind = .ok sig) ∧ sig.topic = topic := by
  rw [← h.mem_iff]
  exact find?_eq_some_iff_of_nodup h.topics

theorem signature_iff (h : Tabulates topicOf settings s kinds) :
    s.signature kind = some sig ↔ kind ∈ kinds ∧ settings.read topicOf kind = .ok sig := by
  have hfind : s.signature kind = some sig ↔ sig ∈ s.signatures ∧ sig.kind = kind :=
    find?_eq_some_iff_of_nodup h.kinds
  rw [hfind, h.mem_iff]
  constructor
  · rintro ⟨⟨other, hother, hread⟩, rfl⟩
    rw [kind_of_read hread]
    exact ⟨hother, hread⟩
  · rintro ⟨hkind, hread⟩
    exact ⟨⟨kind, hkind, hread⟩, kind_of_read hread⟩

theorem hasTopics (h : Tabulates topicOf settings s kinds) : HasTopics topicOf settings kinds := by
  refine ⟨h.reads, ?_⟩
  intro kind hk other ho sig known hsig hknown same
  have hfirst : s.lookup known.topic = some sig := h.lookup_iff.2 ⟨⟨kind, hk, hsig⟩, same⟩
  have hsecond : s.lookup known.topic = some known := h.lookup_iff.2 ⟨⟨other, ho, hknown⟩, rfl⟩
  obtain rfl : sig = known := Option.some.inj (hfirst.symm.trans hsecond)
  rw [← kind_of_read hsig, kind_of_read hknown]

/-- **Adding the signature of one more kind**: it is refused, or else the table holds it. -/
theorem add_cases (h : Tabulates topicOf settings s earlier) (hnew : kind ∉ earlier) :
    (∃ fault, s.add topicOf kind (settings.text kind) = .error fault ∧
        Refuses topicOf settings earlier kind fault) ∨
      ∃ t, s.add topicOf kind (settings.text kind) = .ok t ∧
        Tabulates topicOf settings t (earlier ++ [kind]) := by
  cases hread : settings.read topicOf kind with
  | error cause =>
    have hadd : s.add topicOf kind (settings.text kind) = .error (.signature cause) := by
      rw [add, show Signature.parseWith topicOf kind (settings.text kind).toList = _ from hread]
    exact .inl ⟨_, hadd, .unreadable hread⟩
  | ok sig =>
    cases hlookup : s.lookup sig.topic with
    | some known =>
      have hadd : s.add topicOf kind (settings.text kind) =
          .error (.sharedTopic known.kind kind sig.canonical) := by
        rw [add, show Signature.parseWith topicOf kind (settings.text kind).toList = _ from hread]
        simp only [hlookup]
      obtain ⟨⟨other, hother, hknown⟩, same⟩ := h.lookup_iff.1 hlookup
      rw [kind_of_read hknown] at hadd
      exact .inl ⟨_, hadd, .taken hother hknown hread same⟩
    | none =>
      have hadd : s.add topicOf kind (settings.text kind) = .ok ⟨s.signatures ++ [sig]⟩ := by
        rw [add, show Signature.parseWith topicOf kind (settings.text kind).toList = _ from hread]
        simp only [hlookup]
      have hfree : ∀ known ∈ s.signatures, known.topic ≠ sig.topic := by
        simpa [lookup] using hlookup
      refine .inr ⟨_, hadd, ?_, ?_, nodup_map_concat h.topics hfree, ?_⟩
      · rw [List.forall_mem_append, List.forall_mem_singleton]
        exact ⟨h.reads, sig, hread⟩
      · intro new
        simp only [List.mem_append, List.mem_singleton, h.mem_iff, or_and_right, exists_or,
          exists_eq_left, hread, Except.ok.injEq, eq_comm (a := new)]
      · refine nodup_map_concat h.kinds ?_
        intro known hknown hsame
        obtain ⟨other, hother, hr⟩ := (h.mem_iff known).1 hknown
        rw [kind_of_read hr, kind_of_read hread] at hsame
        exact hnew (hsame ▸ hother)

/-- In a table of all kinds, each kind and each of their topics is found, and nothing else. -/
theorem finds_each (h : Tabulates topicOf settings s EventKind.all) :
    (∀ kind, ∃ sig, settings.read topicOf kind = .ok sig ∧ s.signature kind = some sig ∧
      s.lookup sig.topic = some sig) ∧
    ∀ topic, (∀ kind sig, s.signature kind = some sig → sig.topic ≠ topic) →
      s.lookup topic = none := by
  constructor
  · intro kind
    obtain ⟨sig, hsig⟩ := h.reads kind kind.mem_all
    exact ⟨sig, hsig, h.signature_iff.2 ⟨kind.mem_all, hsig⟩,
      h.lookup_iff.2 ⟨⟨kind, kind.mem_all, hsig⟩, rfl⟩⟩
  · intro topic hother
    rw [Option.eq_none_iff_forall_ne_some]
    intro sig hfound
    obtain ⟨⟨kind, hkind, hread⟩, htopic⟩ := h.lookup_iff.1 hfound
    exact hother kind sig (h.signature_iff.2 ⟨hkind, hread⟩) htopic

end Tabulates

/-- **Filling a table**: all kinds are added, or it ends at the first kind that is refused behind
those before it. -/
theorem Fills.cases (h : Fills topicOf settings s kinds result)
    (hs : Tabulates topicOf settings s earlier) (distinct : (earlier ++ kinds).Nodup) :
    (∃ t, result = .ok t ∧ Tabulates topicOf settings t (earlier ++ kinds)) ∨
      ∃ before kind after fault, kinds = before ++ kind :: after ∧ result = .error fault ∧
        Refuses topicOf settings (earlier ++ before) kind fault ∧
        ∃ u, Tabulates topicOf settings u (earlier ++ before) := by
  induction h generalizing earlier with
  | done order =>
    rw [List.append_nil]
    exact .inl ⟨_, rfl, hs.perm order⟩
  | @refused s t kind kinds fault order refusal =>
    have hnew : kind ∉ earlier := notMem_of_nodup distinct
    refine .inr ⟨[], kind, kinds, fault, rfl, rfl, ?_⟩
    rw [List.append_nil]
    rcases (hs.perm order).add_cases hnew with ⟨fault', hadd, hrefuses⟩ | ⟨u, hadd, -⟩
    · rw [refusal] at hadd
      cases hadd
      exact ⟨hrefuses, s, hs⟩
    · rw [refusal] at hadd
      cases hadd
  | @added s t u kind kinds result order addition rest ih =>
    have hnew : kind ∉ earlier := notMem_of_nodup distinct
    have hu : Tabulates topicOf settings u (earlier ++ [kind]) := by
      rcases (hs.perm order).add_cases hnew with ⟨fault', hadd, -⟩ | ⟨u', hadd, hu'⟩
      · rw [addition] at hadd
        cases hadd
      · rw [addition] at hadd
        cases hadd
        exact hu'
    have hsplit : earlier ++ kind :: kinds = earlier ++ [kind] ++ kinds := by simp
    rw [hsplit] at distinct ⊢
    rcases ih hu distinct with
        ⟨t', rfl, ht'⟩ | ⟨before, last, after, fault, rfl, rfl, hrefuses, held⟩
    · exact .inl ⟨t', rfl, ht'⟩
    · refine .inr ⟨kind :: before, last, after, fault, rfl, rfl, ?_⟩
      rw [show earlier ++ kind :: before = earlier ++ [kind] ++ before by simp]
      exact ⟨hrefuses, held⟩

/-- Why the first of all kinds is refused whose signature is. -/
def FirstRefusal (topicOf : String → Hash) (settings : SchemaSettings) (fault : SchemaFault) :
    Prop :=
  ∃ before kind after, EventKind.all = before ++ kind :: after ∧
    (∀ first other rest, before = first ++ other :: rest →
      ∀ cause, ¬Refuses topicOf settings first other cause) ∧
    Refuses topicOf settings before kind fault

/-- There is no other first refusal than that of a kind behind kinds that share no topic. -/
theorem FirstRefusal.eq {before after : List EventKind} {fault' : SchemaFault}
    (h : FirstRefusal topicOf settings fault') (hall : EventKind.all = before ++ kind :: after)
    (held : HasTopics topicOf settings before)
    (hr : Refuses topicOf settings before kind fault) : fault = fault' := by
  obtain ⟨before', kind', after', hall', hfirst, hr'⟩ := h
  have distinct : (before ++ kind :: after).Nodup := hall ▸ by decide
  rcases List.append_eq_append_iff.1 (hall.symm.trans hall') with
      ⟨between, rfl, htail⟩ | ⟨between, rfl, htail⟩
  · cases between with
    | nil =>
      rw [List.append_nil] at hr'
      cases htail
      exact held.refuses_unique hr hr'
    | cons other rest =>
      cases htail
      exact absurd hr (hfirst before kind rest rfl fault)
  · cases between with
    | nil =>
      rw [List.append_nil] at hr held
      cases htail
      exact held.refuses_unique hr hr'
    | cons other rest =>
      cases htail
      exact absurd hr' (held.not_refuses_before (List.nodup_append.1 distinct).1)

/-- **Schemas tie kinds and topics together, one to one.** Whatever the hash function and whatever
order the table has at any time: the texts make a schema exactly when each is a signature of its
kind and no two share a topic; then each kind has the signature that its text is read as, which is
found under its topic, and nothing is found under any other topic; and if they make none, the fault
is that of the first kind whose text is no signature or has the topic of an earlier kind. -/
theorem fills_one_topic_each (topicOf : String → Hash) (settings : SchemaSettings) :
    Fills topicOf settings ⟨[]⟩ EventKind.all (ofSettingsWith topicOf settings) ∧
    ∀ result, Fills topicOf settings ⟨[]⟩ EventKind.all result →
      ((∃ s, result = .ok s) ↔ HasTopics topicOf settings EventKind.all) ∧
      (∀ s, result = .ok s →
        (∀ kind, ∃ sig, settings.read topicOf kind = .ok sig ∧ s.signature kind = some sig ∧
          s.lookup sig.topic = some sig) ∧
        ∀ topic, (∀ kind sig, s.signature kind = some sig → sig.topic ≠ topic) →
          s.lookup topic = none) ∧
      ∀ fault, result = .error fault ↔ FirstRefusal topicOf settings fault := by
  refine ⟨fills_addAll _ _, ?_⟩
  intro result fills
  rcases fills.cases .empty (by decide) with
      ⟨t, rfl, ht⟩ | ⟨before, kind, after, fault, hall, rfl, hr, u, held⟩
  · refine ⟨iff_of_true ⟨t, rfl⟩ ht.hasTopics, ?_, ?_⟩
    · rintro s ⟨⟩
      exact ht.finds_each
    · intro fault
      refine iff_of_false nofun ?_
      rintro ⟨before, kind, after, hall, -, hr⟩
      have hnodup : (before ++ kind :: after).Nodup := hall ▸ by decide
      exact (hall ▸ ht.hasTopics).not_refuses_before hnodup hr
  · rw [List.nil_append] at hr held
    have hnodup : (before ++ kind :: after).Nodup := hall ▸ by decide
    refine ⟨iff_of_false nofun ?_, nofun, ?_⟩
    · intro htopics
      exact (hall ▸ htopics).not_refuses_before hnodup hr
    · intro fault'
      constructor
      · rintro ⟨⟩
        refine ⟨before, kind, after, hall, ?_, hr⟩
        rintro first other rest rfl cause
        exact held.hasTopics.not_refuses_before (List.nodup_append.1 hnodup).1
      · intro hfirst
        rw [hfirst.eq hall held.hasTopics hr]

end Schema

end BridgeWatch
