import BridgeWatch.Abi.Decode
import BridgeWatch.Event.Basic
import BridgeWatch.Log.Entry
import BridgeWatch.Schema.Basic

/-!
# Decoding log entries

`decodeEntry` gives the event that a log of a chain means under a schema. The topic selects the
signature; the data is decoded by the types of its parameters, and the values are read one after the
other as the fields of the event (`readEvent`).

A reader of fields takes values from the front of a list and counts them; a value that is missing or
of the wrong sort is a fault that names its position.
-/

namespace BridgeWatch

/-- Why values are not the fields of an event. -/
inductive FieldFault
  | missing (position : Nat)
  | mismatch (position : Nat) (expected : String) (found : Abi.Token)
  | emptyDestination
  deriving DecidableEq, Repr

/-- The wording of a refused field. -/
def FieldFault.message : FieldFault → String
  | .missing position => "missing field " ++ Text.decimal position
  | .mismatch position expected found =>
    "field " ++ Text.decimal position ++ " should be " ++ expected ++ ", found " ++ found.shown
  | .emptyDestination => "empty destination chain"

/-- Values yet to be read, and how many have been. -/
structure FieldSource where
  position : Nat
  values : List Abi.Token
  deriving DecidableEq, Repr

/-- A reader of fields. -/
abbrev FieldReader (α : Type) := FieldSource → Except FieldFault (α × FieldSource)

namespace FieldReader

/-- Reads the next value as `expected`, by `f`. -/
def take {α : Type} (expected : String) (f : Abi.Token → Option α) : FieldReader α := fun s =>
  match s.values with
  | [] => .error (.missing s.position)
  | v :: vs =>
    match f v with
    | some a => .ok (a, ⟨s.position + 1, vs⟩)
    | none => .error (.mismatch s.position expected v)

/-- The account that opened a transfer. -/
def sender : FieldReader Address :=
  take "an address" fun
    | .address a => some a
    | _ => none

/-- The recipient; an address in checked mixed case. -/
def recipient : FieldReader String :=
  take "a recipient" fun
    | .address a => some a.checksum
    | .string cs => some (String.ofList cs)
    | _ => none

/-- The amount of tokens. -/
def amount : FieldReader Amount :=
  take "an unsigned amount" fun
    | .uint n => some n
    | _ => none

/-- The destination chain: the decimal text of a number, or a name that is not blank. -/
def chainRef : FieldReader ChainId := fun s =>
  let read := take "a chain reference" fun
    | .uint n => some (some ⟨n.text⟩)
    | .string cs => some (ChainId.ofText? (String.ofList cs))
    | _ => none
  match read s with
  | .error f => .error f
  | .ok (some chain, s) => .ok (chain, s)
  | .ok (none, _) => .error .emptyDestination

/-- A message; a text stands for its UTF-8 bytes. -/
def message : FieldReader Bytes :=
  take "a message" fun
    | .bytes bs => some bs
    | .string cs => some (Text.Utf8.encode cs)
    | _ => none

/-- A hash of 32 bytes. -/
def hash : FieldReader Hash :=
  take "a 32-byte hash" fun
    | .fixedBytes bs => if bs.length = 32 then some (Hash.ofBytes bs) else none
    | _ => none

end FieldReader

open FieldReader in
/-- Reads the fields of a deposit or burn on the chain of its provenance. -/
def readTransfer (provenance : Provenance) : FieldReader TransferDetails := fun s => do
  let (who, s) ← sender s
  let (to_, s) ← recipient s
  let (value, s) ← amount s
  let (destination, s) ← chainRef s
  let (text, s) ← message s
  return (⟨who, provenance.chain, to_, value, destination, text, provenance⟩, s)

open FieldReader in
/-- Reads the fields that a release and a mint confirmation have in common. -/
def readPayout (provenance : Provenance) : FieldReader PayoutDetails := fun s => do
  let (to_, s) ← recipient s
  let (value, s) ← amount s
  return (⟨to_, value, provenance⟩, s)

/-- Reads the fields of an event of a given kind. -/
def readEvent (kind : EventKind) (provenance : Provenance) : FieldReader Event := fun s =>
  match kind with
  | .deposit => (readTransfer provenance s).map fun (t, s) => (.deposit t, s)
  | .burn => (readTransfer provenance s).map fun (t, s) => (.burn t, s)
  | .release => (readPayout provenance s).map fun (p, s) => (.release p, s)
  | .mintConfirmation => do
    let (p, s) ← readPayout provenance s
    let (h, s) ← FieldReader.hash s
    return (.mintConfirmation p h, s)

/-- The provenance of what a log of a chain means. -/
def LogEntry.provenance (chain : ChainId) (entry : LogEntry) : Provenance :=
  ⟨chain, entry.transaction, entry.height⟩

/-- The event that a log with a known signature means. -/
def decodeAs (chain : ChainId) (sig : Signature) (entry : LogEntry) : Except Fault Event :=
  match Abi.decode sig.params entry.payload with
  | .error f => .error (.malformedPayload sig.name f.message)
  | .ok values =>
    match readEvent sig.kind (entry.provenance chain) ⟨0, values⟩ with
    | .error f => .error (.malformedPayload sig.name f.message)
    | .ok (event, _) => .ok event

/-- The event that a log of a chain means under a schema. -/
def decodeEntry (chain : ChainId) (schema : Schema) (entry : LogEntry) : Except Fault Event :=
  match entry.topic with
  | none => .error (.unknownSignature "anonymous")
  | some topic =>
    match schema.lookup topic with
    | none => .error (.unknownSignature topic.text)
    | some sig => decodeAs chain sig entry

end BridgeWatch
