import BridgeWatch.Abi.ParamType
import BridgeWatch.Event.Kind

/-!
# The fields of bridge events

What each parameter of an event means (`Field`), which types can carry it (`Field.accepts`), and
which fields the parameters of each kind of event carry, in order (`fieldLayout`).
-/

namespace BridgeWatch

/-- What a parameter of an event means. -/
inductive Field
  /-- The account that opened a transfer. -/
  | sender
  /-- The recipient: an address, or the text of a foreign one. -/
  | recipient
  /-- The amount of tokens. -/
  | amount
  /-- The destination chain: a number or a name. -/
  | chainRef
  /-- A message: bytes or a text. -/
  | message
  /-- The hash of an earlier transfer. -/
  | hash
  deriving DecidableEq, Repr, Inhabited

namespace Field

/-- All fields. -/
def all : List Field := [sender, recipient, amount, chainRef, message, hash]

/-- The name of a field. -/
def name : Field → String
  | sender => "Sender"
  | recipient => "Recipient"
  | amount => "Amount"
  | chainRef => "ChainRef"
  | message => "Message"
  | hash => "Hash"

/-- A parameter of this type can carry the field. -/
def accepts : Field → Abi.ParamType → Bool
  | sender, .address => true
  | recipient, .address | recipient, .string => true
  | amount, .uint _ => true
  | chainRef, .uint _ | chainRef, .string => true
  | message, .bytes | message, .string => true
  | hash, .fixedBytes size => size == 32
  | _, _ => false

end Field

/-- The fields that the parameters of each kind of event carry. -/
def fieldLayout : EventKind → List Field
  | .deposit | .burn => [.sender, .recipient, .amount, .chainRef, .message]
  | .release => [.recipient, .amount]
  | .mintConfirmation => [.recipient, .amount, .hash]

end BridgeWatch
