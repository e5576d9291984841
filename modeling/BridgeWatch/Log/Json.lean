import BridgeWatch.Json.Words
import BridgeWatch.Log.Entry

/-!
# Log entries in JSON

A log entry as a record of six fields, of which the topic may be absent or `null`.
-/

namespace BridgeWatch.LogEntry

/-- The member names of a log entry. -/
def fieldNames : List String :=
  ["block_height", "transaction_id", "topic", "payload", "contract_address", "log_index"]

/-- A log entry as a value. -/
def toJson (e : LogEntry) : Json :=
  .obj [("block_height", .word e.height), ("transaction_id", .str e.transaction.text),
    ("topic", .option (fun t => .str t.text) e.topic), ("payload", .bytes e.payload),
    ("contract_address", .str e.contract.text), ("log_index", .word e.index)]

/-- Reads a log entry. -/
def ofJson? (j : Json) : Option LogEntry := do
  let r ← Json.Record.of? fieldNames j
  let height ← r.required "block_height" Json.word?
  let transaction ← r.required "transaction_id" Json.hash?
  let topic ← r.optional "topic" Json.hash?
  let payload ← r.required "payload" Json.bytes?
  let contract ← r.required "contract_address" Json.address?
  let index ← r.required "log_index" Json.word?
  return ⟨height, transaction, topic, payload, contract, index⟩

end BridgeWatch.LogEntry
