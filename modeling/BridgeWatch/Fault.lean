import BridgeWatch.Chain
import BridgeWatch.Text.Decimal

/-!
# Faults

Everything that can go wrong while chains are observed and events are relayed, as one type, with the
wording of each fault (`Fault.message`) and its three classifications: whether a later tick may
succeed (`Fault.isRetryable`), whether it concerns a single log entry (`Fault.isEntryLevel`) and
under which name it is counted (`Fault.category`).
-/

namespace BridgeWatch

/-- What can go wrong. -/
inductive Fault
  /-- A text that names no chain. -/
  | invalidChain (text : String)
  /-- Settings that cannot be used. -/
  | settings (message : String)
  /-- A chain's endpoint could not be reached or answered with an error. -/
  | connection (chain : ChainId) (message : String)
  /-- A chain's endpoint does not answer for so many blocks at once. -/
  | rangeTooLarge (chain : ChainId) (first last limit : UInt64)
  /-- A range of blocks that ends before it starts. -/
  | invalidRange (first last : UInt64)
  /-- A log entry whose topic is not in the schema. -/
  | unknownSignature (topic : String)
  /-- A log entry whose data cannot be decoded. -/
  | malformedPayload (event message : String)
  /-- The ledger did not take a submission. -/
  | submission (message : String)
  /-- The ledger answered with an error. -/
  | ledger (message : String)
  /-- A watermark was asked to move back. -/
  | regression (chain : ChainId) (current requested : UInt64)
  /-- An event signature that cannot be used. -/
  | invalidSchema (message : String)
  /-- A text that is no address. -/
  | invalidAddress (text : String)
  /-- A rule of the program itself was broken. -/
  | internal (message : String)
  deriving DecidableEq, Repr, Inhabited

namespace Fault

/-- The decimal text of a height. -/
def height (n : UInt64) : String := Text.decimal n.toNat

/-- The wording of a fault. -/
def message : Fault → String
  | invalidChain text => "Invalid chain: " ++ text
  | settings m => "Configuration error: " ++ m
  | connection chain m => "Connection failure on chain " ++ chain.text ++ ": " ++ m
  | rangeTooLarge chain first last limit =>
    "Block range " ++ height first ++ "..=" ++ height last ++ " on chain " ++ chain.text ++
      " exceeds the endpoint limit of " ++ height limit ++ " blocks"
  | invalidRange first last => "Invalid block range " ++ height first ++ "..=" ++ height last
  | unknownSignature topic => "Unknown event signature: " ++ topic
  | malformedPayload event m => "Malformed " ++ event ++ " payload: " ++ m
  | submission m => "Submission to coordinating ledger failed: " ++ m
  | ledger m => "Coordinating ledger error: " ++ m
  | regression chain current requested =>
    "Watermark for chain " ++ chain.text ++ " cannot move back from " ++ height current ++ " to " ++
      height requested
  | invalidSchema m => "Invalid event schema: " ++ m
  | invalidAddress text => "Invalid address: " ++ text
  | internal m => "Internal error: " ++ m

/-- A later tick may succeed where this one failed. -/
def isRetryable : Fault → Bool
  | connection .. | rangeTooLarge .. | submission .. | ledger .. => true
  | _ => false

/-- The fault concerns one log entry only. -/
def isEntryLevel : Fault → Bool
  | unknownSignature .. | malformedPayload .. | submission .. => true
  | _ => false

/-- The name under which the fault is counted. -/
def category : Fault → String
  | invalidChain .. | invalidSchema .. | invalidAddress .. => "validation"
  | settings .. => "config"
  | connection .. => "connection"
  | rangeTooLarge .. | invalidRange .. => "range"
  | unknownSignature .. | malformedPayload .. => "decode"
  | submission .. => "submit"
  | ledger .. => "coordinator"
  | regression .. => "watermark"
  | internal .. => "internal"

end Fault

/-- The chain that an operator's text names. -/
def ChainId.parse (s : String) : Except Fault ChainId :=
  match ChainId.ofText? s with
  | some chain => .ok chain
  | none => .error (.invalidChain s)

end BridgeWatch
