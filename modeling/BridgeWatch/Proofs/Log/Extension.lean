import BridgeWatch.Proofs.Log.Decoding

/-!
# Decoding extended entries

Nothing that the decoder reads lies behind the data, and nothing that it answers depends on the
contract or the position of a log. So an event that a log means is also what a log means whose data
goes on behind that of the first.

* `Abi.decode_of_isPrefix`: values decoded from data are decoded from all data that begins with it,
  wherever offsets point and however values overlap.
* `LogEntry.Extends` relates an entry to those with shorter data and any contract and position.
* `decodeEntry_of_extends`: an extended entry decodes to the same event, so entries with less of the
  data of an entry that is refused are refused.
-/

namespace BridgeWatch

namespace Abi

variable {data longer : Bytes}

/-! ## Longer data -/

/-- Bytes that lie within data lie within all data that begins with it. -/
theorem slice?_of_isPrefix (h : data <+: longer) {offset size : Nat} {part : Bytes}
    (hp : slice? data offset size = some part) : slice? longer offset size = some part := by
  obtain ⟨rest, rfl⟩ := h
  unfold slice? at *
  split at hp
  · rename_i hlen
    have hfits : offset + size ≤ (data ++ rest).length := by
      rw [List.length_append]
      omega
    have hsize : size ≤ (data.drop offset).length := by
      rw [List.length_drop]
      omega
    rw [if_pos hfits, List.drop_append_of_le_length (by omega), List.take_append_of_le_length hsize,
      hp]
  · cases hp

theorem word?_of_isPrefix (h : data <+: longer) {offset : Nat} {word : Bytes}
    (hw : word? data offset = some word) : word? longer offset = some word :=
  slice?_of_isPrefix h hw

/-- A byte string is found behind its pointer and its length wherever these lead within the data. -/
theorem tail?_of_isPrefix (h : data <+: longer) {head : Nat} {bs : Bytes}
    (ht : tail? data head = some bs) : tail? longer head = some bs := by
  unfold tail? at *
  obtain ⟨pointer, hpointer, ht⟩ := Option.bind_eq_some_iff.1 ht
  obtain ⟨start, hstart, ht⟩ := Option.bind_eq_some_iff.1 ht
  obtain ⟨length, hlength, ht⟩ := Option.bind_eq_some_iff.1 ht
  obtain ⟨size, hsize, ht⟩ := Option.bind_eq_some_iff.1 ht
  rw [word?_of_isPrefix h hpointer, Option.bind_some, hstart, Option.bind_some,
    word?_of_isPrefix h hlength, Option.bind_some, hsize, Option.bind_some, slice?_of_isPrefix h ht]

/-- The cases are the types that a value can have. -/
theorem decodeAt_of_isPrefix (h : data <+: longer) {head : Nat} {t : ParamType} {v : Token}
    (hv : decodeAt data head t = some v) : decodeAt longer head t = some v := by
  unfold decodeAt at *
  split at hv
  · obtain ⟨w, hw, rfl⟩ := Option.map_eq_some_iff.1 hv
    rw [word?_of_isPrefix h hw, Option.map_some]
  · obtain ⟨w, hw, rfl⟩ := Option.map_eq_some_iff.1 hv
    rw [word?_of_isPrefix h hw, Option.map_some]
  · obtain ⟨bs, hbs, rfl⟩ := Option.map_eq_some_iff.1 hv
    rw [slice?_of_isPrefix h hbs, Option.map_some]
  · obtain ⟨bs, hbs, rfl⟩ := Option.map_eq_some_iff.1 hv
    rw [tail?_of_isPrefix h hbs, Option.map_some]
  · obtain ⟨bs, hbs, rfl⟩ := Option.map_eq_some_iff.1 hv
    rw [tail?_of_isPrefix h hbs, Option.map_some]
  · cases hv

theorem decodeFrom_of_isPrefix (h : data <+: longer) {head : Nat} {types : List ParamType}
    {values : List Token} (hd : decodeFrom data head types = some values) :
    decodeFrom longer head types = some values := by
  induction types generalizing head values with
  | nil => exact hd
  | cons t types ih =>
    obtain ⟨v, hv, hd⟩ := Option.bind_eq_some_iff.1 hd
    obtain ⟨vs, hvs, rfl⟩ := Option.map_eq_some_iff.1 hd
    rw [decodeFrom, decodeAt_of_isPrefix h hv, Option.bind_some, ih hvs, Option.map_some]

/-- **Values decoded from data are decoded from all data that begins with it.** -/
theorem decode_of_isPrefix (h : data <+: longer) {types : List ParamType} {values : List Token}
    (hd : decode types data = .ok values) : decode types longer = .ok values := by
  unfold decode at *
  split at hd
  · cases hd
  · rename_i hsome
    -- data that is refused for being empty has no data before it
    have hsome' : ¬(longer = [] ∧ types ≠ []) := fun hl =>
      hsome ⟨List.prefix_nil.1 (hl.1 ▸ h), hl.2⟩
    split at hd
    · rename_i vs hvs
      rw [if_neg hsome', decodeFrom_of_isPrefix h hvs]
      exact hd
    · cases hd

end Abi

/-! ## Extended entries -/

/-- An entry of the block and transaction of another one, with its topic and with data that begins
with that of the other. Contract and position are any. -/
structure LogEntry.Extends (longer entry : LogEntry) : Prop where
  height : longer.height = entry.height
  transaction : longer.transaction = entry.transaction
  topic : longer.topic = entry.topic
  payload : entry.payload <+: longer.payload

namespace LogEntry.Extends

variable {longer entry : LogEntry}

theorem provenance_eq (h : longer.Extends entry) (chain : ChainId) :
    longer.provenance chain = entry.provenance chain := by
  rw [LogEntry.provenance, h.transaction, h.height, LogEntry.provenance]

theorem decodeAs_eq_ok (h : longer.Extends entry) {chain : ChainId} {sig : Signature}
    {event : Event} (hd : decodeAs chain sig entry = .ok event) :
    decodeAs chain sig longer = .ok event := by
  unfold decodeAs at *
  rw [h.provenance_eq]
  split at hd
  · cases hd
  · rename_i values hvalues
    rw [Abi.decode_of_isPrefix h.payload hvalues]
    exact hd

theorem decodeEntry_eq_ok (h : longer.Extends entry) {chain : ChainId} {schema : Schema}
    {event : Event} (hd : decodeEntry chain schema entry = .ok event) :
    decodeEntry chain schema longer = .ok event := by
  unfold decodeEntry at *
  rw [h.topic]
  split at hd
  · cases hd
  · split at hd
    · cases hd
    · rename_i sig _
      exact h.decodeAs_eq_ok hd

end LogEntry.Extends

/-- Contract and position count for nothing, also where a log is refused. -/
theorem decodeEntry_congr (chain : ChainId) (schema : Schema) {entry other : LogEntry}
    (h : other.Extends entry) (payload : other.payload = entry.payload) :
    decodeEntry chain schema other = decodeEntry chain schema entry := by
  unfold decodeEntry decodeAs
  rw [h.topic, payload, h.provenance_eq]

/-- **Decoding is stable under trailing data and blind to the rest of the entry.** Under any schema,
an entry that extends one that decodes to an event decodes to the same event; so if it is refused,
so is the entry that it extends, whose data may be any beginning of its own. Entries that differ in
contract and position only get the same answer, be it an event or a fault. -/
theorem decodeEntry_of_extends {longer entry : LogEntry} (h : longer.Extends entry)
    (chain : ChainId) (schema : Schema) :
    (∀ event, decodeEntry chain schema entry = .ok event →
      decodeEntry chain schema longer = .ok event) ∧
    ((∃ fault, decodeEntry chain schema longer = .error fault) →
      ∃ fault, decodeEntry chain schema entry = .error fault) ∧
    (longer.payload = entry.payload →
      decodeEntry chain schema longer = decodeEntry chain schema entry) := by
  refine ⟨fun event => h.decodeEntry_eq_ok, ?_, decodeEntry_congr chain schema h⟩
  rintro ⟨fault, hfault⟩
  cases hd : decodeEntry chain schema entry with
  | error fault' => exact ⟨fault', rfl⟩
  | ok event => cases hfault.symm.trans (h.decodeEntry_eq_ok hd)

/-- The sample deposit under the canonical schema, from another contract, at another position and
with three bytes behind its data. -/
theorem decodeEntry_of_extends_sampleDeposit : ∃ schema sig,
    Schema.ofSettings .standard = .ok schema ∧ schema.signature .deposit = some sig ∧
    decodeEntry ⟨"goerli"⟩ schema
      ⟨7, default, some sig.topic, Abi.encode sampleDeposit.tokens ++ [1, 2, 3], ⟨99⟩, 5⟩ =
      .ok (sampleDeposit.event ⟨⟨"goerli"⟩, default, 7⟩) := by
  obtain ⟨schema, sig, accepted, hsig, htypes⟩ := exists_standard
  have hlists := Schema.ofSettingsWith_lists accepted
  obtain ⟨sig', hsig', hkind, hfields, hlookup⟩ := hlists.exists_kind .deposit
  cases hsig.symm.trans hsig'
  let entry : LogEntry :=
    ⟨7, default, some sig.topic, Abi.encode sampleDeposit.tokens, default, 0⟩
  have hdecode : Abi.decode sig.params entry.payload = .ok sampleDeposit.tokens := by
    have := Abi.decode_encode htypes hfields.isWordSized [] (by decide +kernel)
    rwa [List.append_nil] at this
  have hentry : decodeEntry ⟨"goerli"⟩ schema entry =
      .ok (sampleDeposit.event (entry.provenance ⟨"goerli"⟩)) := by
    have hname : sampleDeposit.hasBlankDestination = false := by decide +kernel
    rw [decodeEntry_of_lookup rfl hlookup,
      decodeAs_of_decode (v := sampleDeposit) hkind.symm hdecode, hname]
    rfl
  let longer : LogEntry := { entry with
    payload := entry.payload ++ [1, 2, 3], contract := ⟨99⟩, index := 5 }
  have hextends : longer.Extends entry := ⟨rfl, rfl, rfl, List.prefix_append ..⟩
  exact ⟨schema, sig, accepted, hsig, (decodeEntry_of_extends hextends _ _).1 _ hentry⟩

end BridgeWatch
