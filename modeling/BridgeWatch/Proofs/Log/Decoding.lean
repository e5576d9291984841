import BridgeWatch.Proofs.Log.Values

/-!
# Decoding under an accepted schema

The check of a schema and the reader of fields agree: under a schema that was accepted, the data of
a log either has no values of the types of its signature, or the values are those of an event of the
signature's kind (`exists_values_of_decode`), and all that can be wrong with them is the name of the
destination (`decodeAs_of_decode`).

* `decodeEntry_encode`: a log with the topic of a kind whose data is the encoding of values decodes
  to the event that the values mean.
* `decodeEntry_accepted`: a log is refused for its topic exactly when that is the topic of no kind,
  and for its data exactly when that is refused (`Signature.Rejects`); any other log is an event of
  the kind that has its topic.
-/

namespace BridgeWatch

open Abi (Token HasType)

variable {sig : Signature} {schema : Schema} {settings : SchemaSettings}

/-! ## The data of a log -/

/-- Data that is decoded by a signature whose parameters can carry the fields of its kind holds the
values of an event of the kind. -/
theorem exists_values_of_decode (h : sig.CarriesFields) {payload : Bytes} {values : List Token}
    (hd : Abi.decode sig.params payload = .ok values) :
    ∃ v : EventValues, v.kind = sig.kind ∧ v.tokens = values :=
  exists_values (carries_of_hasTypes h (Abi.hasTypes_of_decode hd))

/-- Values of an event are decoded to the event unless the destination is a name of nothing but
white space. -/
theorem decodeAs_of_decode {v : EventValues} {entry : LogEntry} (hk : v.kind = sig.kind)
    (hd : Abi.decode sig.params entry.payload = .ok v.tokens) (chain : ChainId) :
    decodeAs chain sig entry =
      if v.hasBlankDestination then
        .error (.malformedPayload sig.name FieldFault.emptyDestination.message)
      else .ok (v.event (entry.provenance chain)) := by
  rw [decodeAs, hd]
  dsimp only
  rw [← hk, readEvent_tokens]
  cases v.hasBlankDestination <;> rfl

/-- The data is refused under a signature: it cannot be decoded by the types of the parameters, or
nothing is left of the name of the destination without the white space around it. -/
def Signature.Rejects (sig : Signature) (payload : Bytes) : Prop :=
  (∃ fault, Abi.decode sig.params payload = .error fault) ∨
    ∃ values cs, Abi.decode sig.params payload = .ok values ∧
      (Field.chainRef, Token.string cs) ∈ (fieldLayout sig.kind).zip values ∧ Text.trim cs = []

theorem TransferValues.isBlank_iff (t : TransferValues) : t.destination.isBlank = true ↔
    ∃ cs, (Field.chainRef, Token.string cs) ∈
      [Field.sender, .recipient, .amount, .chainRef, .message].zip t.tokens ∧
        Text.trim cs = [] := by
  cases hd : t.destination with
  | number n => simp [tokens, hd, DestinationValue.token, DestinationValue.isBlank]
  | name cs =>
    simp [tokens, hd, DestinationValue.token, DestinationValue.isBlank, Text.trim_eq_nil_iff]

/-- The destination is a name of nothing but white space exactly when nothing is left of it without
the white space around it. -/
theorem EventValues.hasBlankDestination_iff (v : EventValues) : v.hasBlankDestination = true ↔
    ∃ cs, (Field.chainRef, Token.string cs) ∈ (fieldLayout v.kind).zip v.tokens ∧
      Text.trim cs = [] := by
  cases v with
  | deposit t => exact t.isBlank_iff
  | burn t => exact t.isBlank_iff
  | release p => simp [hasBlankDestination, kind, tokens, fieldLayout, PayoutValues.tokens]
  | mintConfirmation p hash =>
    simp [hasBlankDestination, kind, tokens, fieldLayout, PayoutValues.tokens]

/-- The values of an event are refused exactly when the destination is a name of nothing but white
space. -/
theorem Signature.rejects_iff {v : EventValues} {payload : Bytes} (hk : v.kind = sig.kind)
    (hd : Abi.decode sig.params payload = .ok v.tokens) :
    sig.Rejects payload ↔ v.hasBlankDestination = true := by
  rw [v.hasBlankDestination_iff, Rejects, hd, hk]
  constructor
  · rintro (⟨fault, ⟨⟩⟩ | ⟨values, cs, ⟨⟩, h⟩)
    exact ⟨cs, h⟩
  · rintro ⟨cs, h⟩
    exact .inr ⟨_, cs, rfl, h⟩

/-! ## The topic of a log -/

namespace Schema

theorem nodup_all : EventKind.all.Nodup := by decide

/-- A signature of a schema that lists one of each kind is that of its kind. -/
theorem Lists.mem_iff (h : schema.Lists EventKind.all) :
    sig ∈ schema.signatures ↔ schema.signature sig.kind = some sig := by
  rw [h.signature_eq_some_iff nodup_all, and_iff_left rfl]

/-- Each kind has a signature: it is under its topic, and its parameters can carry the fields of the
kind. -/
theorem Lists.exists_kind (h : schema.Lists EventKind.all) (kind : EventKind) :
    ∃ sig, schema.signature kind = some sig ∧ sig.kind = kind ∧ sig.CarriesFields ∧
      schema.lookup sig.topic = some sig := by
  obtain ⟨sig, hsig⟩ := h.exists_signature nodup_all kind.mem_all
  obtain ⟨hmem, hkind⟩ := (h.signature_eq_some_iff nodup_all).1 hsig
  exact ⟨sig, hsig, hkind, h.carriesFields sig hmem, h.lookup_eq_some_iff.2 ⟨hmem, rfl⟩⟩

/-- A topic is not found exactly when it is that of no kind. -/
theorem Lists.lookup_eq_none_iff (h : schema.Lists EventKind.all) {topic : Hash} :
    schema.lookup topic = none ↔
      ∀ kind sig, schema.signature kind = some sig → topic ≠ sig.topic := by
  rw [Option.eq_none_iff_forall_ne_some]
  constructor
  · rintro hnone kind sig hsig rfl
    obtain ⟨hmem, -⟩ := (h.signature_eq_some_iff nodup_all).1 hsig
    exact hnone sig (h.lookup_eq_some_iff.2 ⟨hmem, rfl⟩)
  · intro hne sig hsig
    obtain ⟨hmem, htopic⟩ := h.lookup_eq_some_iff.1 hsig
    exact hne sig.kind sig (h.mem_iff.1 hmem) htopic.symm

end Schema

/-- A log with the topic of a signature is decoded by it. -/
theorem decodeEntry_of_lookup {entry : LogEntry} {topic : Hash} (ht : entry.topic = some topic)
    (hs : schema.lookup topic = some sig) (chain : ChainId) :
    decodeEntry chain schema entry = decodeAs chain sig entry := by
  rw [decodeEntry, ht]
  dsimp only
  rw [hs]

/-- Decoding a log under a known signature never finds the signature unknown. -/
theorem decodeAs_ne_unknownSignature (chain : ChainId) (sig : Signature) (entry : LogEntry)
    (text : String) : decodeAs chain sig entry ≠ .error (.unknownSignature text) := by
  unfold decodeAs
  split
  · nofun
  · split <;> nofun

theorem decodeEntry_eq_unknownSignature_iff (h : schema.Lists EventKind.all) (chain : ChainId)
    (entry : LogEntry) :
    (∃ text, decodeEntry chain schema entry = .error (.unknownSignature text)) ↔
      ∀ kind sig, schema.signature kind = some sig → entry.topic ≠ some sig.topic := by
  cases ht : entry.topic with
  | none => simp [decodeEntry, ht]
  | some topic =>
    simp only [ne_eq, Option.some.injEq]
    rw [← Schema.Lists.lookup_eq_none_iff h]
    cases hl : schema.lookup topic with
    | none => simp [decodeEntry, ht, hl]
    | some sig =>
      simp [decodeEntry_of_lookup ht hl, decodeAs_ne_unknownSignature]

/-! ## Decoding -/

/-- Values of a deposit that names its destination with white space around the name. -/
def sampleDeposit : EventValues :=
  .deposit ⟨⟨42⟩, .name "terra1recipient".toList, ⟨1000⟩, .name " terra\n".toList, .bytes [1, 2]⟩

/-- The canonical schema is accepted, and the sample is of the types of its deposits. -/
theorem exists_standard : ∃ schema sig, Schema.ofSettings .standard = .ok schema ∧
    schema.signature .deposit = some sig ∧
    List.Forall₂ HasType sig.params sampleDeposit.tokens := by
  have h : ((Schema.ofSettings .standard).toOption.bind (·.signature .deposit)).any
      (fun sig => decide (List.Forall₂ HasType sig.params sampleDeposit.tokens)) = true := by
    decide +kernel
  cases hs : Schema.ofSettings .standard with
  | error fault =>
    rw [hs] at h
    cases h
  | ok schema =>
    rw [hs] at h
    obtain ⟨sig, hsig, htypes⟩ := (Option.any_eq_true ..).1 h
    exact ⟨schema, sig, rfl, hsig, of_decide_eq_true htypes⟩

/-- What becomes of a log with the topic of a signature. -/
structure Signature.Decides (sig : Signature) (chain : ChainId) (schema : Schema)
    (entry : LogEntry) : Prop where
  /-- It is malformed exactly when its data is refused. -/
  malformed_iff : (∃ cause, decodeEntry chain schema entry =
    .error (.malformedPayload sig.name cause)) ↔ sig.Rejects entry.payload
  /-- Otherwise all values of the data are read, in order, as the fields of an event of the kind. -/
  read : ¬sig.Rejects entry.payload → ∃ values event,
    Abi.decode sig.params entry.payload = .ok values ∧
    readEvent sig.kind (entry.provenance chain) ⟨0, values⟩ = .ok (event, ⟨values.length, []⟩) ∧
    decodeEntry chain schema entry = .ok event ∧ event.kind = sig.kind
  /-- No value is missing or of the wrong sort, whatever the data. -/
  fault_eq : ∀ values fault, Abi.decode sig.params entry.payload = .ok values →
    readEvent sig.kind (entry.provenance chain) ⟨0, values⟩ = .error fault →
      fault = .emptyDestination

/-- A signature under its topic in a schema decides, if its parameters can carry the fields of its
kind. -/
theorem Signature.CarriesFields.decides (h : sig.CarriesFields)
    (hlookup : schema.lookup sig.topic = some sig) {entry : LogEntry}
    (htopic : entry.topic = some sig.topic) (chain : ChainId) :
    sig.Decides chain schema entry := by
  have hentry := decodeEntry_of_lookup htopic hlookup chain
  cases hd : Abi.decode sig.params entry.payload with
  | error fault =>
    have hreject : sig.Rejects entry.payload := .inl ⟨fault, hd⟩
    refine ⟨iff_of_true ⟨fault.message, ?_⟩ hreject, absurd hreject, ?_⟩
    · rw [hentry, decodeAs, hd]
    · rw [hd]
      nofun
  | ok values =>
    obtain ⟨v, hk, rfl⟩ := exists_values_of_decode h hd
    have hreject := Signature.rejects_iff hk hd
    have hread := readEvent_tokens v (entry.provenance chain)
    rw [decodeAs_of_decode hk hd] at hentry
    rw [hk] at hread
    cases hb : v.hasBlankDestination with
    | true =>
      rw [hb, if_pos rfl] at hentry hread
      rw [hb] at hreject
      refine ⟨iff_of_true ⟨_, hentry⟩ (hreject.2 rfl), absurd (hreject.2 rfl), ?_⟩
      intro values fault hvalues hfault
      cases hd.symm.trans hvalues
      cases hread.symm.trans hfault
      rfl
    | false =>
      rw [hb, if_neg Bool.false_ne_true] at hentry hread
      rw [hb] at hreject
      refine ⟨iff_of_false ?_ fun hr => Bool.false_ne_true (hreject.1 hr), fun _ => ?_, ?_⟩
      · rintro ⟨cause, hcause⟩
        cases hentry.symm.trans hcause
      · exact ⟨v.tokens, v.event _, hd, hread, hentry, (v.kind_event _).trans hk⟩
      · intro values fault hvalues hfault
        cases hd.symm.trans hvalues
        cases hread.symm.trans hfault

/-- **Under an accepted schema a log is only refused for its topic or its data.** It has an unknown
signature exactly when its topic is that of no kind; with the topic of a kind, the signature of the
kind decides (`Signature.Decides`). -/
theorem decodeEntry_accepted (accepted : Schema.ofSettings settings = .ok schema) :
    (∀ chain entry, (∃ text, decodeEntry chain schema entry = .error (.unknownSignature text)) ↔
      ∀ kind sig, schema.signature kind = some sig → entry.topic ≠ some sig.topic) ∧
    ∀ kind, ∃ sig, schema.signature kind = some sig ∧ sig.kind = kind ∧
      ∀ chain entry, entry.topic = some sig.topic → sig.Decides chain schema entry := by
  have hlists := Schema.ofSettingsWith_lists accepted
  refine ⟨decodeEntry_eq_unknownSignature_iff hlists, fun kind => ?_⟩
  obtain ⟨sig, hsig, hkind, hfields, hlookup⟩ := hlists.exists_kind kind
  exact ⟨sig, hsig, hkind, fun chain _ htopic => hfields.decides hlookup htopic chain⟩

/-- A log of a deposit without data under the canonical schema. -/
theorem decodeEntry_accepted_noData : ∃ schema sig, Schema.ofSettings .standard = .ok schema ∧
    schema.signature .deposit = some sig ∧
    ∃ cause, decodeEntry ⟨"goerli"⟩ schema ⟨7, default, some sig.topic, [], default, 0⟩ =
      .error (.malformedPayload sig.name cause) := by
  obtain ⟨schema, sig, accepted, hsig, htypes⟩ := exists_standard
  obtain ⟨_, hsig', -, hdecides⟩ := (decodeEntry_accepted accepted).2 .deposit
  cases hsig.symm.trans hsig'
  have hparams : sig.params ≠ [] := fun h => by
    rw [h] at htypes
    cases htypes
  refine ⟨schema, sig, accepted, hsig, (hdecides _ _ rfl).malformed_iff.2 (.inl ⟨.noData, ?_⟩)⟩
  exact if_pos ⟨rfl, hparams⟩

end BridgeWatch
