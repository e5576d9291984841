import BridgeWatch.Settings.Basic
import BridgeWatch.Url.Basic

/-!
# Validating settings

Settings are valid if the program can run with them: there are threads, the ledger's endpoint is a
URL, and at least one chain is enabled; and every enabled chain has a URL, a contract address,
intervals and limits above zero, and a schema. Chains that are not enabled do not matter.
-/

namespace BridgeWatch

/-- Why the settings of a chain are not valid. -/
inductive ChainInvalidity
  | endpoint (text : String)
  | contract (text : String) (cause : AddressFault)
  /-- A number that has to be greater than zero. -/
  | zero (setting : String)
  | schema (cause : SchemaFault)
  deriving Repr

/-- Why settings are not valid. -/
inductive Invalidity
  | noThreads
  | ledgerEndpoint (text : String)
  | noChain
  | chain (chain : ChainId) (cause : ChainInvalidity)
  deriving Repr

/-- The wording of settings that are not valid. -/
def Invalidity.message : Invalidity → String
  | .noThreads => "worker_threads must be greater than 0"
  | .ledgerEndpoint text => "Invalid coordinator endpoint: " ++ text
  | .noChain => "At least one chain must be enabled"
  | .chain c (.endpoint text) => "Invalid RPC endpoint for chain " ++ c.text ++ ": " ++ text
  | .chain _ (.contract text cause) => contractMessage text cause
  | .chain c (.zero setting) => setting ++ " must be greater than 0 for chain " ++ c.text
  | .chain c (.schema cause) =>
    "Invalid event schema for chain " ++ c.text ++ ": " ++ cause.toFault.message

/-- A text is a URL. -/
def isUrl (text : String) : Bool := (Url.parse text).isOk

/-- What is not valid about the settings of a chain. -/
def ChainSettings.invalidity? (s : ChainSettings) : Option ChainInvalidity :=
  if !isUrl s.endpoint then some (.endpoint s.endpoint)
  else
    match s.contract with
    | .error cause => some (.contract s.contractAddress cause)
    | .ok _ =>
      if s.pollIntervalSeconds = 0 then some (.zero "poll_interval_seconds")
      else if s.maxWindow = 0 then some (.zero "max_window")
      else if s.rpcTimeoutSeconds = 0 then some (.zero "rpc_timeout_seconds")
      else
        match Schema.ofSettings s.schema with
        | .error cause => some (.schema cause)
        | .ok _ => none

/-- What is not valid about the enabled chains: the first fault of the first one that has any. -/
def firstInvalidity? : List (ChainId × ChainSettings) → Option Invalidity
  | [] => none
  | (chain, s) :: rest =>
    match if s.enabled then s.invalidity? else none with
    | some cause => some (.chain chain cause)
    | none => firstInvalidity? rest

/-- Checks that the program can run with settings. -/
def Settings.validate (s : Settings) : Except Invalidity Unit :=
  if s.global.workerThreads = 0 then .error .noThreads
  else if !isUrl s.ledger.endpoint then .error (.ledgerEndpoint s.ledger.endpoint)
  else if !s.chains.any (·.2.enabled) then .error .noChain
  else
    match firstInvalidity? s.chains with
    | some i => .error i
    | none => .ok ()

end BridgeWatch
