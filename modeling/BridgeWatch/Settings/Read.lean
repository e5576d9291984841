import BridgeWatch.Assoc
import BridgeWatch.Settings.Basic
import BridgeWatch.Settings.Conversion
import BridgeWatch.Settings.Json

/-!
# Settings from a tree

`Settings.ofTree` reads the settings that a tree describes. Every field may be absent and then has
its default; values are converted to what their fields need. Numbers that are wider than their
fields are cut to the field's low bits.
-/

namespace BridgeWatch

open Settings

/-- Reads schema settings. -/
def SchemaSettings.ofTree (t : Tree) : Except LoadFault SchemaSettings := do
  let ps ← Parts.of "SchemaConfig" fieldNames t
  let d := standard
  let deposit ← ps.field "deposit" d.deposit Tree.toText
  let burn ← ps.field "burn" d.burn Tree.toText
  let release ← ps.field "release" d.release Tree.toText
  let mintConfirmation ← ps.field "mint_confirmation" d.mintConfirmation Tree.toText
  return ⟨deposit, burn, release, mintConfirmation⟩

/-- Reads a failure policy. -/
def FailurePolicy.ofTree (t : Tree) : Except LoadFault FailurePolicy := do
  let name ← t.choice "FailurePolicy"
  match ofName? name with
  | some p => return p
  | none => throw (.unknownChoice "FailurePolicy" name)

/-- Reads the settings of a chain. -/
def ChainSettings.ofTree (t : Tree) : Except LoadFault ChainSettings := do
  let ps ← Parts.of "ChainConfig" fieldNames t
  let d := standard
  let enabled ← ps.field "enabled" d.enabled Tree.toBool
  let endpoint ← ps.field "endpoint" d.endpoint Tree.toText
  let contractAddress ← ps.field "contract_address" d.contractAddress Tree.toText
  let pollInterval ← ps.field "poll_interval_seconds" d.pollIntervalSeconds Tree.toWord
  let maxWindow ← ps.field "max_window" d.maxWindow Tree.toWord
  let rpcTimeout ← ps.field "rpc_timeout_seconds" d.rpcTimeoutSeconds Tree.toWord
  let failurePolicy ← ps.field "failure_policy" d.failurePolicy FailurePolicy.ofTree
  let schema ← ps.field "schema" d.schema SchemaSettings.ofTree
  return ⟨enabled, endpoint, contractAddress, pollInterval, maxWindow, rpcTimeout, failurePolicy,
    schema⟩

/-- Reads global settings. -/
def GlobalSettings.ofTree (d : GlobalSettings) (t : Tree) : Except LoadFault GlobalSettings := do
  let ps ← Parts.of "GlobalConfig" fieldNames t
  let logLevel ← ps.field "log_level" d.logLevel Tree.toText
  let workerThreads ← ps.field "worker_threads" d.workerThreads Tree.toWord
  let shutdownTimeout ← ps.field "shutdown_timeout_seconds" d.shutdownTimeoutSeconds Tree.toWord
  let unhealthyAfter ← ps.field "unhealthy_after_failures" d.unhealthyAfterFailures
    fun t => t.toWord.map UInt64.toUInt32
  return ⟨logLevel, workerThreads, shutdownTimeout, unhealthyAfter⟩

/-- Reads ledger settings. -/
def LedgerSettings.ofTree (t : Tree) : Except LoadFault LedgerSettings := do
  let ps ← Parts.of "CoordinatorConfig" fieldNames t
  let d := standard
  let endpoint ← ps.field "endpoint" d.endpoint Tree.toText
  let requestTimeout ← ps.field "request_timeout_seconds" d.requestTimeoutSeconds Tree.toWord
  let signerName ← ps.field "signer_name" d.signerName Tree.toText
  return ⟨endpoint, requestTimeout, signerName⟩

/-- Reads metrics settings. -/
def MetricsSettings.ofTree (t : Tree) : Except LoadFault MetricsSettings := do
  let ps ← Parts.of "MetricsConfig" fieldNames t
  let d := standard
  let enabled ← ps.field "enabled" d.enabled Tree.toBool
  let bindAddress ← ps.field "prometheus_bind_address" d.bindAddress Tree.toText
  let port ← ps.field "prometheus_port" d.port fun t => t.toWord.map UInt64.toUInt16
  return ⟨enabled, bindAddress, port⟩

namespace Settings

/-- Reads the chains of a table, each under its name. -/
def chainsOfTree (t : Tree) : Except LoadFault (List (ChainId × ChainSettings)) :=
  match t with
  | .table _ entries =>
    entries.foldlM (fun known e =>
      match ChainSettings.ofTree e.2 with
      | .ok s => .ok (Assoc.put ⟨e.1⟩ s known)
      | .error f => .error (f.within (.name e.1))) []
  | _ => .error (.misshapen t.found "a map")

/-- Reads settings, on a machine with the given number of processors. -/
def ofTree (processors : UInt64) (t : Tree) : Except LoadFault Settings := do
  let ps ← Parts.of "ObserverConfig" fieldNames t
  let d := standard processors
  let global ← ps.field "global" d.global d.global.ofTree
  let ledger ← ps.field "coordinator" d.ledger LedgerSettings.ofTree
  let chains ← ps.field "chains" d.chains chainsOfTree
  let metrics ← ps.field "monitoring" d.metrics fun t => do
    let ps ← Parts.of "MonitoringConfig" ["metrics"] t
    ps.field "metrics" d.metrics MetricsSettings.ofTree
  return ⟨global, ledger, chains, metrics⟩

end Settings

end BridgeWatch
