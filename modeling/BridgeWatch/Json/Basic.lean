import BridgeWatch.Binary64

/-!
# JSON values

The values of a JSON text and the questions the library asks of one. A number is an integer if it is
written without a point or an exponent and fits in 64 bits, signed or unsigned; any other number is
a double.

A *record* is a value with named fields. It is written as an object, of which members with other
names are ignored, or as an array that gives the fields in their order. `Record.of?` reads both
forms; an object that gives one field twice is no record.
-/

namespace BridgeWatch

/-- A JSON value. The members of an object stand in the order in which they are written. -/
inductive Json
  | null
  | bool (b : Bool)
  | int (n : Int)
  | real (x : Binary64)
  | str (s : String)
  | arr (xs : List Json)
  | obj (ms : List (String × Json))
  deriving Inhabited

namespace Json

/-- A natural number as a JSON value. -/
def nat (n : Nat) : Json := .int n

/-- A value that may be absent, written as `null` if it is. -/
def option {α : Type} (f : α → Json) : Option α → Json
  | none => .null
  | some a => f a

/-- The member of an object with a given name; of several, the last. -/
def member? (name : String) : Json → Option Json
  | .obj ms => (ms.reverse.find? fun m => m.1 == name).map (·.2)
  | _ => none

/-- The value is a text. -/
def string? : Json → Option String
  | .str s => some s
  | _ => none

/-- The value is a truth value. -/
def bool? : Json → Option Bool
  | .bool b => some b
  | _ => none

/-- The value is a natural number of 64 bits. -/
def word? : Json → Option UInt64
  | .int (.ofNat n) => if n < UInt64.size then some (UInt64.ofNat n) else none
  | _ => none

/-- The value is a natural number of 32 bits. -/
def word32? : Json → Option UInt32
  | .int (.ofNat n) => if n < UInt32.size then some (UInt32.ofNat n) else none
  | _ => none

/-- The elements of an array. -/
def array? : Json → Option (List Json)
  | .arr xs => some xs
  | _ => none

/-- A number of 64 bits as a JSON value. -/
def word (n : UInt64) : Json := nat n.toNat

/-- The fields that a value gives, each with its value. -/
structure Record where
  fields : List (String × Json)

/-- The fields of a record with the given field names. -/
def Record.of? (names : List String) : Json → Option Record
  | .obj ms =>
    let known := ms.filter fun m => names.contains m.1
    if (known.map (·.1)).Nodup then some ⟨known⟩ else none
  | .arr xs => if xs.length ≤ names.length then some ⟨names.zip xs⟩ else none
  | _ => none

namespace Record

/-- The value of a field, if the record gives it. -/
def get? (r : Record) (name : String) : Option Json :=
  (r.fields.find? fun m => m.1 == name).map (·.2)

/-- A field that has to be given and to be read by `f`. -/
def required {α : Type} (r : Record) (name : String) (f : Json → Option α) : Option α :=
  (r.get? name).bind f

/-- A field that stands for a default if it is not given, and has to be read by `f` if it is. -/
def orDefault {α : Type} (r : Record) (name : String) (default : α) (f : Json → Option α) :
    Option α :=
  match r.get? name with
  | none => some default
  | some j => f j

/-- A field that may be absent or `null`, and otherwise has to be read by `f`. -/
def optional {α : Type} (r : Record) (name : String) (f : Json → Option α) : Option (Option α) :=
  match r.get? name with
  | none | some .null => some none
  | some j => (f j).map some

end Record

end Json

end BridgeWatch
