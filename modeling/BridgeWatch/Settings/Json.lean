import BridgeWatch.Assoc
import BridgeWatch.Json.Basic
import BridgeWatch.Settings.Basic

/-!
# Settings in JSON

Settings as records in which every field may be absent and then has its default. A field that is
there must have the right type: nothing is converted, and `null` is no value. `Settings.toJson`
writes all fields.
-/

namespace BridgeWatch

namespace SchemaSettings

/-- The member names of schema settings. -/
def fieldNames : List String := ["deposit", "burn", "release", "mint_confirmation"]

/-- Reads schema settings. -/
def ofJson? (j : Json) : Option SchemaSettings := do
  let r ← Json.Record.of? fieldNames j
  let d := standard
  let deposit ← r.orDefault "deposit" d.deposit Json.string?
  let burn ← r.orDefault "burn" d.burn Json.string?
  let release ← r.orDefault "release" d.release Json.string?
  let mintConfirmation ← r.orDefault "mint_confirmation" d.mintConfirmation Json.string?
  return ⟨deposit, burn, release, mintConfirmation⟩

/-- Schema settings as a value. -/
def toJson (s : SchemaSettings) : Json :=
  .obj [("deposit", .str s.deposit), ("burn", .str s.burn), ("release", .str s.release),
    ("mint_confirmation", .str s.mintConfirmation)]

end SchemaSettings

/-- Reads a failure policy: its name, or an object that gives the name the value `null`. -/
def FailurePolicy.ofJson? : Json → Option FailurePolicy
  | .str s => ofName? s
  | .obj [(name, .null)] => ofName? name
  | _ => none

namespace ChainSettings

/-- The member names of the settings of a chain. -/
def fieldNames : List String :=
  ["enabled", "endpoint", "contract_address", "poll_interval_seconds", "max_window",
    "rpc_timeout_seconds", "failure_policy", "schema"]

/-- Reads the settings of a chain. -/
def ofJson? (j : Json) : Option ChainSettings := do
  let r ← Json.Record.of? fieldNames j
  let d := standard
  let enabled ← r.orDefault "enabled" d.enabled Json.bool?
  let endpoint ← r.orDefault "endpoint" d.endpoint Json.string?
  let contractAddress ← r.orDefault "contract_address" d.contractAddress Json.string?
  let pollInterval ← r.orDefault "poll_interval_seconds" d.pollIntervalSeconds Json.word?
  let maxWindow ← r.orDefault "max_window" d.maxWindow Json.word?
  let rpcTimeout ← r.orDefault "rpc_timeout_seconds" d.rpcTimeoutSeconds Json.word?
  let failurePolicy ← r.orDefault "failure_policy" d.failurePolicy FailurePolicy.ofJson?
  let schema ← r.orDefault "schema" d.schema SchemaSettings.ofJson?
  return ⟨enabled, endpoint, contractAddress, pollInterval, maxWindow, rpcTimeout, failurePolicy,
    schema⟩

/-- The settings of a chain as a value. -/
def toJson (s : ChainSettings) : Json :=
  .obj [("enabled", .bool s.enabled), ("endpoint", .str s.endpoint),
    ("contract_address", .str s.contractAddress),
    ("poll_interval_seconds", .word s.pollIntervalSeconds), ("max_window", .word s.maxWindow),
    ("rpc_timeout_seconds", .word s.rpcTimeoutSeconds),
    ("failure_policy", .str s.failurePolicy.name), ("schema", s.schema.toJson)]

end ChainSettings

namespace GlobalSettings

/-- The member names of the global settings. -/
def fieldNames : List String :=
  ["log_level", "worker_threads", "shutdown_timeout_seconds", "unhealthy_after_failures"]

/-- Reads global settings. -/
def ofJson? (d : GlobalSettings) (j : Json) : Option GlobalSettings := do
  let r ← Json.Record.of? fieldNames j
  let logLevel ← r.orDefault "log_level" d.logLevel Json.string?
  let workerThreads ← r.orDefault "worker_threads" d.workerThreads Json.word?
  let shutdownTimeout ← r.orDefault "shutdown_timeout_seconds" d.shutdownTimeoutSeconds Json.word?
  let unhealthyAfter ← r.orDefault "unhealthy_after_failures" d.unhealthyAfterFailures Json.word32?
  return ⟨logLevel, workerThreads, shutdownTimeout, unhealthyAfter⟩

/-- Global settings as a value. -/
def toJson (s : GlobalSettings) : Json :=
  .obj [("log_level", .str s.logLevel), ("worker_threads", .word s.workerThreads),
    ("shutdown_timeout_seconds", .word s.shutdownTimeoutSeconds),
    ("unhealthy_after_failures", .nat s.unhealthyAfterFailures.toNat)]

end GlobalSettings

namespace LedgerSettings

/-- The member names of the ledger settings. -/
def fieldNames : List String := ["endpoint", "request_timeout_seconds", "signer_name"]

/-- Reads ledger settings. -/
def ofJson? (j : Json) : Option LedgerSettings := do
  let r ← Json.Record.of? fieldNames j
  let d := standard
  let endpoint ← r.orDefault "endpoint" d.endpoint Json.string?
  let requestTimeout ← r.orDefault "request_timeout_seconds" d.requestTimeoutSeconds Json.word?
  let signerName ← r.orDefault "signer_name" d.signerName Json.string?
  return ⟨endpoint, requestTimeout, signerName⟩

/-- Ledger settings as a value. -/
def toJson (s : LedgerSettings) : Json :=
  .obj [("endpoint", .str s.endpoint), ("request_timeout_seconds", .word s.requestTimeoutSeconds),
    ("signer_name", .str s.signerName)]

end LedgerSettings

namespace MetricsSettings

/-- The member names of the metrics settings. -/
def fieldNames : List String := ["enabled", "prometheus_bind_address", "prometheus_port"]

/-- A port number. -/
def port? (j : Json) : Option UInt16 :=
  j.word?.bind fun n => if n.toNat < UInt16.size then some n.toUInt16 else none

/-- Reads metrics settings. -/
def ofJson? (j : Json) : Option MetricsSettings := do
  let r ← Json.Record.of? fieldNames j
  let d := standard
  let enabled ← r.orDefault "enabled" d.enabled Json.bool?
  let bindAddress ← r.orDefault "prometheus_bind_address" d.bindAddress Json.string?
  let port ← r.orDefault "prometheus_port" d.port port?
  return ⟨enabled, bindAddress, port⟩

/-- Metrics settings as a value. -/
def toJson (s : MetricsSettings) : Json :=
  .obj [("enabled", .bool s.enabled), ("prometheus_bind_address", .str s.bindAddress),
    ("prometheus_port", .nat s.port.toNat)]

end MetricsSettings

namespace Settings

/-- The member names of the settings. -/
def fieldNames : List String := ["global", "coordinator", "chains", "monitoring"]

/-- Reads the settings of all chains from an object; of two settings of one chain the last
counts. -/
def chainsOfJson? : Json → Option (List (ChainId × ChainSettings))
  | .obj ms =>
    ms.foldlM (fun known m => (ChainSettings.ofJson? m.2).map fun s => Assoc.put ⟨m.1⟩ s known) []
  | _ => none

/-- Reads settings, on a machine with the given number of processors. -/
def ofJson? (processors : UInt64) (j : Json) : Option Settings := do
  let r ← Json.Record.of? fieldNames j
  let d := standard processors
  let global ← r.orDefault "global" d.global d.global.ofJson?
  let ledger ← r.orDefault "coordinator" d.ledger LedgerSettings.ofJson?
  let chains ← r.orDefault "chains" d.chains chainsOfJson?
  let metrics ← r.orDefault "monitoring" d.metrics fun j => do
    let r ← Json.Record.of? ["metrics"] j
    r.orDefault "metrics" d.metrics MetricsSettings.ofJson?
  return ⟨global, ledger, chains, metrics⟩

/-- Settings as a value. -/
def toJson (s : Settings) : Json :=
  .obj [("global", s.global.toJson), ("coordinator", s.ledger.toJson),
    ("chains", .obj (s.chains.map fun c => (c.1.text, c.2.toJson))),
    ("monitoring", .obj [("metrics", s.metrics.toJson)])]

end Settings

end BridgeWatch
