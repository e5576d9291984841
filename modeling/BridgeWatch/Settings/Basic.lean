import BridgeWatch.AddressText
import BridgeWatch.Chain
import BridgeWatch.Schema.Basic

/-!
# Settings

What an operator configures, with the default of each setting. Chains are data: each has its own
`ChainSettings` under its identifier.
-/

namespace BridgeWatch

/-- What to do with a log entry that cannot be decoded or relayed. -/
inductive FailurePolicy
  /-- Skip the entry; the window counts as applied. -/
  | skip
  /-- Stop the window and scan it again in the next tick. -/
  | hold
  deriving DecidableEq, Repr, Inhabited

namespace FailurePolicy

/-- Both policies. -/
def all : List FailurePolicy := [skip, hold]

/-- The name of a policy. -/
def name : FailurePolicy → String
  | skip => "skip"
  | hold => "hold"

/-- The policy with a given name. -/
def ofName? (s : String) : Option FailurePolicy := all.find? fun p => p.name == s

end FailurePolicy

/-- The settings of one chain. -/
structure ChainSettings where
  enabled : Bool
  /-- The address of the chain's RPC server. -/
  endpoint : String
  /-- The bridge contract to watch. -/
  contractAddress : String
  pollIntervalSeconds : UInt64
  /-- The most blocks to scan in one tick. -/
  maxWindow : UInt64
  rpcTimeoutSeconds : UInt64
  failurePolicy : FailurePolicy
  schema : SchemaSettings
  deriving DecidableEq, Repr

namespace ChainSettings

/-- The settings of a chain of which nothing is configured. -/
def standard : ChainSettings where
  enabled := true
  endpoint := "http://localhost:8545"
  contractAddress := "0x0000000000000000000000000000000000000000"
  pollIntervalSeconds := 5
  maxWindow := 10
  rpcTimeoutSeconds := 10
  failurePolicy := .skip
  schema := .standard

instance : Inhabited ChainSettings := ⟨standard⟩

/-- The time between polls in milliseconds. -/
def pollInterval (s : ChainSettings) : Nat := s.pollIntervalSeconds.toNat * 1000

/-- The deadline of each call in milliseconds. -/
def rpcTimeout (s : ChainSettings) : Nat := s.rpcTimeoutSeconds.toNat * 1000

/-- The bridge contract. -/
def contract (s : ChainSettings) : Except AddressFault Address := Address.read s.contractAddress

end ChainSettings

/-- The wording of a contract address that cannot be read. -/
def contractMessage (text : String) (cause : AddressFault) : String :=
  "Invalid contract address " ++ text ++ ": " ++ cause.message

/-- Settings of the whole program. -/
structure GlobalSettings where
  logLevel : String
  workerThreads : UInt64
  shutdownTimeoutSeconds : UInt64
  /-- Failed ticks in a row after which an observer counts as unhealthy. -/
  unhealthyAfterFailures : UInt32
  deriving DecidableEq, Repr

/-- The defaults, on a machine with the given number of processors. -/
def GlobalSettings.standard (processors : UInt64) : GlobalSettings where
  logLevel := "info"
  workerThreads := processors
  shutdownTimeoutSeconds := 30
  unhealthyAfterFailures := 5

/-- The gateway of the coordinating ledger. -/
structure LedgerSettings where
  endpoint : String
  requestTimeoutSeconds : UInt64
  /-- The name under which submissions are signed. -/
  signerName : String
  deriving DecidableEq, Repr

/-- The ledger gateway if nothing is configured. -/
def LedgerSettings.standard : LedgerSettings where
  endpoint := "http://localhost:1317"
  requestTimeoutSeconds := 10
  signerName := "observer"

/-- The metrics exporter. -/
structure MetricsSettings where
  enabled : Bool
  bindAddress : String
  port : UInt16
  deriving DecidableEq, Repr

/-- The metrics exporter if nothing is configured. -/
def MetricsSettings.standard : MetricsSettings where
  enabled := false
  bindAddress := "0.0.0.0"
  port := 9100

/-- All settings. -/
structure Settings where
  global : GlobalSettings
  ledger : LedgerSettings
  chains : List (ChainId × ChainSettings)
  metrics : MetricsSettings
  deriving DecidableEq, Repr

namespace Settings

/-- The settings if nothing is configured. -/
def standard (processors : UInt64) : Settings where
  global := .standard processors
  ledger := .standard
  chains := []
  metrics := .standard

/-- The enabled chains, of those in `only` if that is given, ordered by identifier. -/
def enabledChains (s : Settings) (only : Option (List ChainId)) : List (ChainId × ChainSettings) :=
  let chosen := s.chains.filter fun c =>
    c.2.enabled &&
      match only with
      | none => true
      | some ids => ids.contains c.1
  chosen.mergeSort fun a b => !b.1.before a.1

end Settings

end BridgeWatch
