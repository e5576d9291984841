import BridgeWatch.Chain
import BridgeWatch.Event.Kind
import BridgeWatch.Words

/-!
# Bridge events

An event is what a log of a bridge contract means. Deposits and burns carry a transfer, releases and
mint confirmations a payout; each knows where it comes from (`Provenance`).
-/

namespace BridgeWatch

/-- Where an event was observed. -/
structure Provenance where
  chain : ChainId
  transaction : Hash
  height : UInt64
  deriving DecidableEq, Repr, Inhabited

/-- Tokens that leave a chain for another one. -/
structure TransferDetails where
  sender : Address
  sourceChain : ChainId
  recipient : String
  amount : Amount
  destinationChain : ChainId
  message : Bytes
  provenance : Provenance
  deriving DecidableEq, Repr, Inhabited

/-- Tokens that reach their recipient on a chain. -/
structure PayoutDetails where
  recipient : String
  amount : Amount
  provenance : Provenance
  deriving DecidableEq, Repr, Inhabited

/-- A bridge event. -/
inductive Event
  | deposit (transfer : TransferDetails)
  | burn (transfer : TransferDetails)
  | release (payout : PayoutDetails)
  | mintConfirmation (payout : PayoutDetails) (correlation : Hash)
  deriving DecidableEq, Repr, Inhabited

namespace Event

/-- The kind of an event. -/
def kind : Event → EventKind
  | deposit _ => .deposit
  | burn _ => .burn
  | release _ => .release
  | mintConfirmation _ _ => .mintConfirmation

/-- Where an event was observed. -/
def provenance : Event → Provenance
  | deposit t | burn t => t.provenance
  | release p | mintConfirmation p _ => p.provenance

/-- The amount of tokens an event moves. -/
def amount : Event → Amount
  | deposit t | burn t => t.amount
  | release p | mintConfirmation p _ => p.amount

end Event

end BridgeWatch
