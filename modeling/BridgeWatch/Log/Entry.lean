import BridgeWatch.Words

/-!
# Log entries

A log of a watched contract as the observer works with it: placed in a block, with the first topic
only.
-/

namespace BridgeWatch

/-- A log of a contract. -/
structure LogEntry where
  /-- The block the log is in. -/
  height : UInt64
  /-- The transaction that emitted it. -/
  transaction : Hash
  /-- The first topic; an anonymous log has none. -/
  topic : Option Hash
  /-- The data section. -/
  payload : Bytes
  /-- The contract that emitted it. -/
  contract : Address
  /-- The position within the block. -/
  index : UInt64
  deriving DecidableEq, Repr, Inhabited

end BridgeWatch
