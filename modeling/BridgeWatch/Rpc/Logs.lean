import BridgeWatch.Json.Words
import BridgeWatch.Log.Entry

/-!
# Logs as nodes send them

A node's log becomes a log entry if it is mined and was not removed: it needs a block number and a
transaction. `entriesOfLogs` makes the entries and orders them by block and position; entries of one
place keep the order in which the node sent them. A position is cut to its low 64 bits and is zero
if it is missing.
-/

namespace BridgeWatch.Rpc

/-- A log as a node sends it. -/
structure RawLog where
  address : Address
  topics : List Hash
  data : Bytes
  blockNumber : Option UInt64
  transactionHash : Option Hash
  logIndex : Option Amount
  removed : Option Bool
  deriving DecidableEq, Repr

namespace RawLog

/-- The member names of a log. -/
def fieldNames : List String :=
  ["address", "topics", "data", "blockHash", "blockNumber", "transactionHash", "transactionIndex",
    "logIndex", "transactionLogIndex", "logType", "removed"]

/-- Reads a log. Members that are of no use have to be readable, too. -/
def ofJson? (j : Json) : Option RawLog := do
  let r ← Json.Record.of? fieldNames j
  let address ← r.required "address" Json.address?
  let topics ← r.required "topics" fun j => j.array?.bind fun js => js.mapM Json.hash?
  let data ← r.required "data" Json.bytes?
  let _ ← r.optional "blockHash" Json.hash?
  let blockNumber ← r.optional "blockNumber" Json.quantity?
  let transactionHash ← r.optional "transactionHash" Json.hash?
  let _ ← r.optional "transactionIndex" Json.quantity?
  let logIndex ← r.optional "logIndex" Json.amount?
  let _ ← r.optional "transactionLogIndex" Json.amount?
  let _ ← r.optional "logType" Json.string?
  let removed ← r.optional "removed" Json.bool?
  return ⟨address, topics, data, blockNumber, transactionHash, logIndex, removed⟩

/-- The entry that a log makes, unless it was removed or is not mined. -/
def entry? (l : RawLog) : Option LogEntry :=
  if l.removed = some true then none
  else
    match l.blockNumber, l.transactionHash with
    | some height, some transaction =>
      some ⟨height, transaction, l.topics.head?, l.data, l.address,
        (l.logIndex.map fun n => UInt64.ofNat (n.word.toNat % UInt64.size)).getD 0⟩
    | _, _ => none

end RawLog

/-- The first entry does not stand behind the second: it is in an earlier block, or in the same one
and not behind it. -/
def placedBefore (a b : LogEntry) : Bool :=
  a.height < b.height || (a.height == b.height && a.index ≤ b.index)

/-- The entries that logs make, in the order of their places. -/
def entriesOfLogs (logs : List RawLog) : List LogEntry :=
  (logs.filterMap RawLog.entry?).mergeSort placedBefore

end BridgeWatch.Rpc
