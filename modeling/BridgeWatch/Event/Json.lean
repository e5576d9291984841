import BridgeWatch.Event.Basic
import BridgeWatch.Json.Words

/-!
# Events in JSON

An event is a record whose member `type` names its kind; the other members are the fields of the
kind, all of them required. `Event.toJson` writes one and `Event.ofJson?` reads one, in any order of
members and with members it does not know.
-/

namespace BridgeWatch

/-- The member names of a provenance. -/
def Provenance.fieldNames : List String := ["chain", "transaction_id", "block_height"]

/-- Where an event was observed, as a value. -/
def Provenance.toJson (p : Provenance) : Json :=
  .obj [("chain", .str p.chain.text), ("transaction_id", .str p.transaction.text),
    ("block_height", .word p.height)]

/-- A chain identifier as a value is its text. -/
def ChainId.ofJson? (j : Json) : Option ChainId := j.string?.map ChainId.mk

/-- Reads where an event was observed. -/
def Provenance.ofJson? (j : Json) : Option Provenance := do
  let r ← Json.Record.of? fieldNames j
  let chain ← r.required "chain" ChainId.ofJson?
  let transaction ← r.required "transaction_id" Json.hash?
  let height ← r.required "block_height" Json.word?
  return ⟨chain, transaction, height⟩

namespace Event

/-- The member names of a kind of event, in their order. -/
def fieldNames : EventKind → List String
  | .deposit =>
    ["sender", "source_chain", "recipient", "destination_chain", "amount", "message", "provenance"]
  | .burn =>
    ["sender", "source_chain", "recipient", "amount", "destination_chain", "message", "provenance"]
  | .release => ["recipient", "amount", "provenance"]
  | .mintConfirmation => ["recipient", "amount", "correlation_hash", "provenance"]

/-- The members of a transfer. What stands in the middle is the same for each kind, but not in the
same order. -/
def transferMembers (t : TransferDetails) (middle : List (String × Json)) :
    List (String × Json) :=
  [("sender", .str t.sender.text), ("source_chain", .str t.sourceChain.text),
    ("recipient", .str t.recipient)] ++ middle ++
    [("message", .bytes t.message), ("provenance", t.provenance.toJson)]

/-- The members of a payout, with what only some kinds have before the provenance. -/
def payoutMembers (p : PayoutDetails) (more : List (String × Json)) : List (String × Json) :=
  [("recipient", .str p.recipient), ("amount", .str p.amount.hex)] ++ more ++
    [("provenance", p.provenance.toJson)]

/-- The members of an event without its type. -/
def members : Event → List (String × Json)
  | deposit t => transferMembers t
      [("destination_chain", .str t.destinationChain.text), ("amount", .str t.amount.hex)]
  | burn t => transferMembers t
      [("amount", .str t.amount.hex), ("destination_chain", .str t.destinationChain.text)]
  | release p => payoutMembers p []
  | mintConfirmation p h => payoutMembers p [("correlation_hash", .str h.text)]

/-- An event as a value. -/
def toJson (e : Event) : Json := .obj (("type", .str e.kind.name) :: e.members)

/-- Reads the fields of a transfer. -/
def transferOf? (r : Json.Record) : Option TransferDetails := do
  let sender ← r.required "sender" Json.address?
  let sourceChain ← r.required "source_chain" ChainId.ofJson?
  let recipient ← r.required "recipient" Json.string?
  let amount ← r.required "amount" Json.amount?
  let destinationChain ← r.required "destination_chain" ChainId.ofJson?
  let message ← r.required "message" Json.bytes?
  let provenance ← r.required "provenance" Provenance.ofJson?
  return ⟨sender, sourceChain, recipient, amount, destinationChain, message, provenance⟩

/-- Reads the fields of a payout. -/
def payoutOf? (r : Json.Record) : Option PayoutDetails := do
  let recipient ← r.required "recipient" Json.string?
  let amount ← r.required "amount" Json.amount?
  let provenance ← r.required "provenance" Provenance.ofJson?
  return ⟨recipient, amount, provenance⟩

/-- Reads the fields of an event of a given kind. -/
def ofRecord? (kind : EventKind) (r : Json.Record) : Option Event :=
  match kind with
  | .deposit => (transferOf? r).map deposit
  | .burn => (transferOf? r).map burn
  | .release => (payoutOf? r).map release
  | .mintConfirmation => do
    let p ← payoutOf? r
    let h ← r.required "correlation_hash" Json.hash?
    return mintConfirmation p h

/-- The kind that a value names as its type, and the value without it. An array gives the type as
its first element. -/
def tagged? : Json → Option (EventKind × Json)
  | .obj ms =>
    match ms.filter fun m => m.1 == "type" with
    | [(_, j)] =>
      (j.string?.bind EventKind.ofName?).map fun k => (k, .obj (ms.filter fun m => m.1 != "type"))
    | _ => none
  | .arr (j :: js) => (j.string?.bind EventKind.ofName?).map fun k => (k, .arr js)
  | _ => none

/-- Reads an event. -/
def ofJson? (j : Json) : Option Event := do
  let (kind, rest) ← tagged? j
  let r ← Json.Record.of? (fieldNames kind) rest
  ofRecord? kind r

end Event

end BridgeWatch
