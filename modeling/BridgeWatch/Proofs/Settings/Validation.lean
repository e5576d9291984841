import BridgeWatch.Proofs.Chain
import BridgeWatch.Proofs.Settings.Construction
import BridgeWatch.Settings.Validation

/-!
# Valid settings

* `Settings.validate_eq_ok_iff`: settings are valid exactly when they are as `Settings.IsValid` and,
  for each enabled chain, `ChainSettings.IsSound` say.
* `Settings.validate_congr`: the order of the chains does not matter, and neither does any setting
  of a chain that is not enabled.
* `ChainSettings.IsSound.connected`: a connector and an observer can be made of sound settings.
* `Settings.mem_enabledChains`, `Settings.pairwise_enabledChains`: the chains that are to be
  observed, in their order.
-/

namespace BridgeWatch

theorem isUrl_eq_true_iff {text : String} : isUrl text = true ↔ ∃ url, Url.parse text = .ok url :=
  isOk_iff_exists

/-! ## The settings of a chain -/

/-- The settings of a chain are such that it can be observed. -/
@[mk_iff]
structure ChainSettings.IsSound (s : ChainSettings) : Prop where
  endpoint : ∃ url, Url.parse s.endpoint = .ok url
  contract : ∃ address, s.contract = .ok address
  pollInterval : s.pollIntervalSeconds ≠ 0
  maxWindow : s.maxWindow ≠ 0
  rpcTimeout : s.rpcTimeoutSeconds ≠ 0
  schema : ∃ schema, Schema.ofSettings s.schema = .ok schema

namespace ChainSettings

/-- No check of a chain's settings finds anything exactly when they are sound. -/
theorem invalidity?_eq_none_iff (s : ChainSettings) : s.invalidity? = none ↔ s.IsSound := by
  rw [isSound_iff, ← isUrl_eq_true_iff]
  unfold invalidity?
  cases isUrl s.endpoint with
  | false => simp
  | true =>
    cases s.contract with
    | error cause => simp
    | ok address =>
      -- what is left are the numbers and the schema
      by_cases hp : s.pollIntervalSeconds = 0
      · simp [hp]
      by_cases hm : s.maxWindow = 0
      · simp [hp, hm]
      by_cases ht : s.rpcTimeoutSeconds = 0
      · simp [hp, hm, ht]
      cases Schema.ofSettings s.schema with
      | error cause => simp [hp, hm, ht]
      | ok schema => simp [hp, hm, ht]

variable {s : ChainSettings}

/-- A connector and an observer can be made of sound settings. -/
theorem IsSound.connected (h : s.IsSound) (chain : ChainId) (unhealthyAfter : UInt32) :
    ∃ c o, Observer.connected chain s unhealthyAfter = .ok (c, o) := by
  obtain ⟨url, hurl⟩ := h.endpoint
  obtain ⟨address, hcontract⟩ := h.contract
  obtain ⟨schema, hschema⟩ := h.schema
  exact ⟨_, _, Observer.connected_eq_ok_iff.2
    ⟨Rpc.Connector.ofSettings_eq_ok_iff.2 ⟨url, hurl, rfl⟩,
      Observer.ofSettings_eq_ok_iff.2 ⟨schema, address, hschema, hcontract, rfl⟩⟩⟩

theorem isSound_standard : standard.IsSound := by
  obtain ⟨hurl, hcontract, hschema⟩ := exists_standard
  exact ⟨hurl, hcontract, by decide, by decide, by decide, hschema⟩

end ChainSettings

/-! ## All settings -/

/-- No check finds anything about the enabled chains exactly when the settings of each are sound. -/
theorem firstInvalidity?_eq_none_iff (chains : List (ChainId × ChainSettings)) :
    firstInvalidity? chains = none ↔ ∀ e ∈ chains, e.2.enabled = true → e.2.IsSound := by
  induction chains with
  | nil => simp [firstInvalidity?]
  | cons e chains ih =>
    obtain ⟨chain, s⟩ := e
    rw [firstInvalidity?, List.forall_mem_cons, ← ih, ← s.invalidity?_eq_none_iff]
    cases s.enabled with
    | false => simp
    | true =>
      cases s.invalidity? with
      | none => simp
      | some cause => simp

namespace Settings

/-- The program can run with the settings. -/
@[mk_iff]
structure IsValid (s : Settings) : Prop where
  workerThreads : s.global.workerThreads ≠ 0
  ledger : ∃ url, Url.parse s.ledger.endpoint = .ok url
  someEnabled : ∃ e ∈ s.chains, e.2.enabled = true
  sound : ∀ e ∈ s.chains, e.2.enabled = true → e.2.IsSound

/-- **Settings are valid exactly when the program can run with them.** -/
theorem validate_eq_ok_iff (s : Settings) : s.validate = .ok () ↔ s.IsValid := by
  rw [isValid_iff, ← firstInvalidity?_eq_none_iff, ← isUrl_eq_true_iff,
    ← List.any_eq_true]
  unfold validate
  by_cases ht : s.global.workerThreads = 0
  · simp [ht]
  cases isUrl s.ledger.endpoint with
  | false => simp [ht]
  | true =>
    cases s.chains.any (·.2.enabled) with
    | false => simp [ht]
    | true =>
      cases firstInvalidity? s.chains with
      | none => simp [ht]
      | some i => simp [ht]

/-- Settings are as valid as others with the same enabled chains, in whatever order. -/
theorem validate_congr {s s' : Settings}
    (workerThreads : s'.global.workerThreads = s.global.workerThreads)
    (ledger : s'.ledger.endpoint = s.ledger.endpoint)
    (chains : (s'.chains.filter (·.2.enabled)).Perm (s.chains.filter (·.2.enabled))) :
    s'.validate = .ok () ↔ s.validate = .ok () := by
  have hmem (e : ChainId × ChainSettings) :
      (e ∈ s'.chains ∧ e.2.enabled = true) ↔ (e ∈ s.chains ∧ e.2.enabled = true) := by
    have h := chains.mem_iff (a := e)
    rwa [List.mem_filter, List.mem_filter] at h
  have hsome : (∃ e ∈ s'.chains, e.2.enabled = true) ↔ ∃ e ∈ s.chains, e.2.enabled = true :=
    exists_congr hmem
  have hsound : (∀ e ∈ s'.chains, e.2.enabled = true → e.2.IsSound) ↔
      ∀ e ∈ s.chains, e.2.enabled = true → e.2.IsSound :=
    forall_congr' fun e => by rw [← and_imp, hmem e, and_imp]
  rw [validate_eq_ok_iff, validate_eq_ok_iff, isValid_iff, isValid_iff, workerThreads, ledger,
    hsome, hsound]

/-! ## The chains to observe -/

/-- A chain is among those that were asked for. -/
def Selects (only : Option (List ChainId)) (chain : ChainId) : Prop :=
  ∀ ids, only = some ids → chain ∈ ids

variable {s : Settings} {only : Option (List ChainId)}

/-- The chains to observe are the enabled ones of those that were asked for. -/
theorem mem_enabledChains {e : ChainId × ChainSettings} : e ∈ s.enabledChains only ↔
    e ∈ s.chains ∧ e.2.enabled = true ∧ Selects only e.1 := by
  unfold enabledChains Selects
  rw [(List.mergeSort_perm ..).mem_iff, List.mem_filter]
  cases only with
  | none => simp
  | some ids => simp

/-- They come in the order of their identifiers, none twice. -/
theorem pairwise_enabledChains (distinct : (s.chains.map Prod.fst).Nodup)
    (only : Option (List ChainId)) :
    (s.enabledChains only).Pairwise fun a b => a.1.before b.1 = true :=
  ChainId.pairwise_before_mergeSort (distinct.sublist (List.filter_sublist.map Prod.fst))

end Settings

end BridgeWatch
