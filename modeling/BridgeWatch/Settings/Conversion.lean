import BridgeWatch.Settings.LoadFault
import BridgeWatch.Text.Lowercase

/-!
# Converting settings

Scalars are converted to the type that a setting needs, so that every source can give them as
texts: `yes` is a truth value and a number, `"12"` is a number, and `12` is a text. Nothing, lists
and tables are never converted. A number with a point is rounded to the nearest whole number, a tie
away from zero, and numbers out of range become the nearest one in range.

A record is read from a table by the names of its fields, or from a list by their positions
(`Parts.of`); fields with other names do not matter.
-/

namespace BridgeWatch.Settings

namespace Tree

/-- The text of a double with a point. -/
def pointed (x : Binary64) : String :=
  let s := x.text
  if s.toList.contains '.' then s else s ++ ".0"

/-- How a value is described where parts are needed. -/
def found : Tree → String
  | nothing _ => "unit value"
  | bool _ b => "boolean `" ++ (if b then "true" else "false") ++ "`"
  | int _ n => "integer `" ++ Text.signedDecimal n ++ "`"
  | real _ x => "floating point `" ++ pointed x ++ "`"
  | text _ s => "string " ++ Text.quoted s
  | list _ _ => "sequence"
  | table _ _ => "map"

/-- A value that cannot be converted. -/
def refuse {α : Type} (t : Tree) (expected : String) : Except LoadFault α :=
  .error (.mismatch t.found expected "" t.origin)

/-- The texts that stand for a truth value, in any case. -/
def truthOf? (s : String) : Option Bool :=
  match Text.lowered s with
  | "true" | "on" | "yes" => some true
  | "false" | "off" | "no" => some false
  | _ => none

/-- A value as a truth value. -/
def toBool (t : Tree) : Except LoadFault Bool :=
  match t with
  | bool _ b => .ok b
  | int _ n => .ok (n ≠ 0)
  | real _ x => .ok (x.mantissa ≠ 0)
  | text o s =>
    if s = "1" then .ok true
    else if s = "0" then .ok false
    else
      match truthOf? s with
      | some b => .ok b
      | none => (text o (Text.lowered s)).refuse "a boolean"
  | _ => t.refuse "a boolean"

/-- A whole number cut to the range of 64 bits. -/
def saturated (n : Int) : UInt64 := UInt64.ofNat (min n.toNat Text.maxWord64)

/-- A value as a natural number of 64 bits. -/
def toWord (t : Tree) : Except LoadFault UInt64 :=
  match t with
  | bool _ b => .ok (if b then 1 else 0)
  | int o n =>
    if 0 ≤ n then .ok (saturated n)
    else .error (.mismatch ("integer 64 bit `" ++ Text.signedDecimal n ++ "`")
      "an unsigned 64 bit or less integer" "" o)
  | real _ x => .ok (saturated x.round)
  | text _ s =>
    match truthOf? s with
    | some b => .ok (if b then 1 else 0)
    | none =>
      match Text.readNumeral Text.maxWord64 s.toList with
      | .ok n => .ok (UInt64.ofNat n)
      | .error _ => t.refuse "an integer"
  | _ => t.refuse "an integer"

/-- A value as a text. -/
def toText (t : Tree) : Except LoadFault String :=
  match t with
  | bool _ b => .ok (if b then "true" else "false")
  | int _ n => .ok (Text.signedDecimal n)
  | real _ x => .ok x.text
  | text _ s => .ok s
  | _ => t.refuse "a string"

/-- The name that a value chooses: a text, or the only name of a table. -/
def choice (kind : String) (t : Tree) : Except LoadFault String :=
  match t with
  | text _ s => .ok s
  | table _ [(name, _)] => .ok name
  | _ => .error (.noChoice kind)

end Tree

/-- The parts of a record: the field, the step that leads to it, and its value. -/
abbrev Parts := List (String × Tree.Step × Tree)

namespace Parts

/-- The parts of a record of which the type's name and the names of the fields are given. -/
def of (kind : String) (names : List String) (t : Tree) : Except LoadFault Parts :=
  match t with
  | .table _ entries => .ok (entries.map fun e => (e.1, .name e.1, e.2))
  | .list _ items =>
    .ok ((names.zip items.zipIdx).map fun (name, item, n) => (name, .index n, item))
  | _ => .error (.misshapen t.found ("struct " ++ kind))

/-- The value of a field, which stands for a default if it is not there. -/
def field {α : Type} (ps : Parts) (name : String) (default : α)
    (read : Tree → Except LoadFault α) : Except LoadFault α :=
  match ps.find? fun p => p.1 == name with
  | none => .ok default
  | some (_, step, t) => (read t).mapError (·.within step)

end Parts

end BridgeWatch.Settings
