import BridgeWatch.Event.Basic
import BridgeWatch.Fault

/-!
# Submissions to the ledger

What the coordinating ledger is told of an event: a `TransferOrder` for a deposit or burn, a
`ReceiptNotice` for a release or mint confirmation. All parts but the block height are texts: an
address in checked mixed case, amounts in decimal, messages and hashes in hex.
-/

namespace BridgeWatch

/-- The identifier that the ledger gives an accepted submission. -/
structure CorrelationId where
  text : String
  deriving DecidableEq, Repr, Inhabited

/-- The first ten characters of an identifier. -/
def CorrelationId.short (id : CorrelationId) : String := String.ofList (id.text.toList.take 10)

/-- A transfer that the ledger shall settle. -/
structure TransferOrder where
  sender : String
  senderChain : ChainId
  recipient : String
  recipientChain : ChainId
  amount : String
  gasLimit : String
  message : String
  inTransaction : String
  inHeight : UInt64
  deriving DecidableEq, Repr, Inhabited

/-- A payout that the ledger shall take note of. -/
structure ReceiptNotice where
  /-- The hash of the send it answers; empty if it is not known. -/
  sendHash : String
  /-- The hash of the transaction that paid out; empty if it is not known. -/
  outTransaction : String
  height : UInt64
  amount : String
  recipient : String
  deriving DecidableEq, Repr, Inhabited

/-- A submission of either sort. -/
inductive Submission
  | transfer (order : TransferOrder)
  | receipt (notice : ReceiptNotice)
  deriving DecidableEq, Repr, Inhabited

/-- The order for a transfer. -/
def TransferDetails.order (t : TransferDetails) : TransferOrder where
  sender := t.sender.checksum
  senderChain := t.sourceChain
  recipient := t.recipient
  recipientChain := t.destinationChain
  amount := t.amount.text
  gasLimit := "0"
  message := Text.Hex.prefixed t.message
  inTransaction := t.provenance.transaction.text
  inHeight := t.provenance.height

namespace Event

/-- The order for a deposit or burn. -/
def order : Event → Except Fault TransferOrder
  | deposit t | burn t => .ok t.order
  | e => .error (.internal (e.kind.name ++ " is not a transfer"))

/-- The notice of a release, which names no transaction, or of a mint confirmation. -/
def notice : Event → Except Fault ReceiptNotice
  | release p => .ok ⟨"", "", p.provenance.height, p.amount.text, p.recipient⟩
  | mintConfirmation p h =>
    .ok ⟨h.text, p.provenance.transaction.text, p.provenance.height, p.amount.text, p.recipient⟩
  | e => .error (.internal (e.kind.name ++ " is not a receipt"))

end Event

end BridgeWatch
