import BridgeWatch.Json.Basic
import BridgeWatch.Ledger.Submission

/-!
# Submissions in JSON

The two sorts of submission as they are sent to the ledger and read back from a record.
-/

namespace BridgeWatch

namespace TransferOrder

/-- The member names of an order. -/
def fieldNames : List String :=
  ["sender", "sender_chain", "recipient", "recipient_chain", "amount", "gas_limit", "message",
    "in_tx_hash", "in_block_height"]

/-- An order as a value. -/
def toJson (o : TransferOrder) : Json :=
  .obj [("sender", .str o.sender), ("sender_chain", .str o.senderChain.text),
    ("recipient", .str o.recipient), ("recipient_chain", .str o.recipientChain.text),
    ("amount", .str o.amount), ("gas_limit", .str o.gasLimit), ("message", .str o.message),
    ("in_tx_hash", .str o.inTransaction), ("in_block_height", .word o.inHeight)]

/-- Reads an order. -/
def ofJson? (j : Json) : Option TransferOrder := do
  let r ← Json.Record.of? fieldNames j
  let sender ← r.required "sender" Json.string?
  let senderChain ← r.required "sender_chain" Json.string?
  let recipient ← r.required "recipient" Json.string?
  let recipientChain ← r.required "recipient_chain" Json.string?
  let amount ← r.required "amount" Json.string?
  let gasLimit ← r.required "gas_limit" Json.string?
  let message ← r.required "message" Json.string?
  let inTransaction ← r.required "in_tx_hash" Json.string?
  let inHeight ← r.required "in_block_height" Json.word?
  return ⟨sender, ⟨senderChain⟩, recipient, ⟨recipientChain⟩, amount, gasLimit, message,
    inTransaction, inHeight⟩

end TransferOrder

namespace ReceiptNotice

/-- The member names of a notice. -/
def fieldNames : List String := ["send_hash", "out_tx_hash", "block_height", "amount", "recipient"]

/-- A notice as a value. -/
def toJson (n : ReceiptNotice) : Json :=
  .obj [("send_hash", .str n.sendHash), ("out_tx_hash", .str n.outTransaction),
    ("block_height", .word n.height), ("amount", .str n.amount), ("recipient", .str n.recipient)]

/-- Reads a notice. -/
def ofJson? (j : Json) : Option ReceiptNotice := do
  let r ← Json.Record.of? fieldNames j
  let sendHash ← r.required "send_hash" Json.string?
  let outTransaction ← r.required "out_tx_hash" Json.string?
  let height ← r.required "block_height" Json.word?
  let amount ← r.required "amount" Json.string?
  let recipient ← r.required "recipient" Json.string?
  return ⟨sendHash, outTransaction, height, amount, recipient⟩

end ReceiptNotice

/-- A submission as a value. -/
def Submission.toJson : Submission → Json
  | .transfer order => order.toJson
  | .receipt notice => notice.toJson

end BridgeWatch
