import BridgeWatch.Proofs.Observer.ScanWindow
import BridgeWatch.Proofs.Schema.Acceptance
import BridgeWatch.Supervisor.Start

/-!
# What is made of a chain's settings

* `Rpc.Connector.ofSettings_eq_ok_iff`, `Observer.ofSettings_eq_ok_iff` and
  `Observer.connected_eq_ok_iff`: when a connector and an observer can be made, and which.
* `ChainSettings.exists_connected`: the standard settings of a chain make both, with any limit of
  blocks.
-/

namespace BridgeWatch

theorem isOk_iff_exists {ε α : Type} {x : Except ε α} : x.isOk = true ↔ ∃ a, x = .ok a := by
  cases x with
  | error e => simp [Except.isOk, Except.toBool]
  | ok a => simp [Except.isOk, Except.toBool]

theorem one_le_max_one (n : UInt64) : 1 ≤ max n 1 := by
  rw [UInt64.le_iff_toNat_le, toNat_max]
  exact Nat.le_max_right ..

variable {chain : ChainId} {s : ChainSettings} {unhealthyAfter : UInt32} {c : Rpc.Connector}
  {o : Observer}

/-- A connector is made if the endpoint is a URL. -/
theorem Rpc.Connector.ofSettings_eq_ok_iff : ofSettings chain s = .ok c ↔
    ∃ url, Url.parse s.endpoint = .ok url ∧ c = ⟨chain, url, max s.maxWindow 1⟩ := by
  unfold ofSettings
  cases Url.parse s.endpoint with
  | error f => simp
  | ok url => simp [eq_comm]

namespace Observer

/-- An observer is made if the schema is accepted and the contract is an address. -/
theorem ofSettings_eq_ok_iff : ofSettings chain s unhealthyAfter = .ok o ↔
    ∃ schema contract, Schema.ofSettings s.schema = .ok schema ∧ s.contract = .ok contract ∧
      o = ⟨chain, schema, contract, s.pollInterval, max s.maxWindow 1, s.failurePolicy,
        unhealthyAfter⟩ := by
  unfold ofSettings
  cases Schema.ofSettings s.schema with
  | error f => simp
  | ok schema =>
    cases s.contract with
    | error f => simp
    | ok contract => simp [eq_comm]

/-- Both are made if each can be. -/
theorem connected_eq_ok_iff : connected chain s unhealthyAfter = .ok (c, o) ↔
    Rpc.Connector.ofSettings chain s = .ok c ∧ ofSettings chain s unhealthyAfter = .ok o := by
  unfold connected
  cases Rpc.Connector.ofSettings chain s with
  | error f => simp [Bind.bind, Except.bind]
  | ok c' =>
    cases ofSettings chain s unhealthyAfter with
    | error f => simp [Bind.bind, Except.bind]
    | ok o' => simp [Bind.bind, Except.bind, Pure.pure, Except.pure]

end Observer

namespace ChainSettings

/-- The texts of the standard settings are in order. -/
theorem exists_standard : (∃ url, Url.parse standard.endpoint = .ok url) ∧
    (∃ contract, standard.contract = .ok contract) ∧
    ∃ schema, Schema.ofSettings standard.schema = .ok schema :=
  ⟨isOk_iff_exists.1 (by decide +kernel), isOk_iff_exists.1 (by decide +kernel),
    isOk_iff_exists.1 (by decide +kernel)⟩

/-- The standard settings of a chain, with another limit of blocks. -/
def limited (maxWindow : UInt64) : ChainSettings := { standard with maxWindow := maxWindow }

/-- They make a connector and an observer, whatever the limit. -/
theorem exists_connected (chain : ChainId) (maxWindow : UInt64) (unhealthyAfter : UInt32) :
    ∃ c o, Rpc.Connector.ofSettings chain (limited maxWindow) = .ok c ∧
      Observer.ofSettings chain (limited maxWindow) unhealthyAfter = .ok o := by
  obtain ⟨⟨url, hurl⟩, ⟨contract, hcontract⟩, schema, hschema⟩ := exists_standard
  exact ⟨_, _, Rpc.Connector.ofSettings_eq_ok_iff.2 ⟨url, hurl, rfl⟩,
    Observer.ofSettings_eq_ok_iff.2 ⟨schema, contract, hschema, hcontract, rfl⟩⟩

end ChainSettings

end BridgeWatch
