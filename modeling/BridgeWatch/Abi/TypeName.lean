import BridgeWatch.Abi.ParamType
import BridgeWatch.Text.Search

/-!
# Reading type names

`ParamType.read` gives the type that a name stands for. The reading is lenient: a name it does not
know, and the empty name, stand for `uint8`, and a width may be any number of 64 bits. It is refused
only where a number is expected and none stands there, and where the parentheses of a tuple do not
fit.

* A name that ends in `)` is a tuple. Its items stand between the commas at its top level; an item
  without text, and an empty tuple as an item, count for nothing.
* A name that ends in `]` is an array, of fixed length if there is a number between the brackets.
* `int`, `uint` and `tuple` stand for `int256`, `uint256` and the empty tuple.
-/

namespace BridgeWatch.Abi

/-- Why a name stands for no type. -/
inductive TypeNameFault
  | invalidName (name : List Char)
  | numeral (cause : Text.NumeralFault)
  deriving DecidableEq, Repr

/-- The wording of a refused type name. -/
def TypeNameFault.message : TypeNameFault → String
  | .invalidName name => "Invalid name: " ++ String.ofList name
  | .numeral cause => "Integer parsing error: " ++ cause.message

/-- Reads a width or length. -/
def readSize (cs : List Char) : Except TypeNameFault Nat :=
  match Text.readNumeral Text.maxWord64 cs with
  | .ok n => .ok n
  | .error cause => .error (.numeral cause)

/-- Reads the width that follows the name of a family of types. -/
def readWidth (family : Nat → ParamType) (cs : List Char) : Except TypeNameFault ParamType :=
  match readSize cs with
  | .ok n => .ok (family n)
  | .error f => .error f

/-- Reads a name that is neither a tuple nor an array. -/
def readElementary (cs : List Char) : Except TypeNameFault ParamType :=
  if cs = "address".toList then .ok .address
  else if cs = "bytes".toList then .ok .bytes
  else if cs = "bool".toList then .ok .bool
  else if cs = "string".toList then .ok .string
  else if cs = "int".toList then .ok (.int 256)
  else if cs = "uint".toList then .ok (.uint 256)
  else if cs = "tuple".toList then .ok (.tuple [])
  else
    match Text.dropStart? "int".toList cs with
    | some width => readWidth .int width
    | none =>
      match Text.dropStart? "uint".toList cs with
      | some width => readWidth .uint width
      | none =>
        match Text.dropStart? "bytes".toList cs with
        | some width => readWidth .fixedBytes width
        | none => .ok (.uint 8)

/-- An item of a tuple counts if it has text and is not the empty tuple. -/
def countsAsItem (item : List Char) : Bool := !(item = [] || item = ['(', ')'])

/-- Adds an item, given back to front, to the items that follow it. -/
def addItem (item : List Char) (items : List (Option (List Char))) : List (Option (List Char)) :=
  if countsAsItem item.reverse then some item.reverse :: items else items

/-- The items of a tuple, from a place at which `depth` parentheses are open and `item` is read,
last character first. The items end with `none` where a parenthesis is closed that was not
opened. -/
def tupleItems (depth : Nat) (item : List Char) : List Char → List (Option (List Char))
  | [] => []
  | c :: cs =>
    if c = '(' then tupleItems (depth + 1) (c :: item) cs
    else if c = ')' then
      match depth with
      | 0 => [none]
      | 1 => addItem item (tupleItems 0 [] cs)
      | depth + 2 => tupleItems (depth + 1) (c :: item) cs
    else if c = ',' ∧ depth = 1 then addItem item (tupleItems depth [] cs)
    else tupleItems depth (c :: item) cs

/-- Splits a name that ends in `]` at its last opening bracket: the element's name and the text
between the brackets. -/
def splitArray (cs : List Char) : List Char × List Char :=
  let inner := cs.reverse.drop 1
  ((inner.dropWhile (· ≠ '[')).drop 1 |>.reverse, (inner.takeWhile (· ≠ '[')).reverse)

/-- Collects results up to the first fault. -/
def collect {ε α : Type} : List (Except ε α) → Except ε (List α)
  | [] => .ok []
  | .error e :: _ => .error e
  | .ok a :: rs =>
    match collect rs with
    | .ok as => .ok (a :: as)
    | .error e => .error e

/-- Reads a name; each part of a tuple or array is read with one less of the budget. -/
def readWithin : (budget : Nat) → List Char → Except TypeNameFault ParamType
  | 0, cs => .error (.invalidName cs)
  | budget + 1, cs =>
    match cs.getLast? with
    | some ')' =>
      if cs.head? = some '(' then
        let read := fun item : Option (List Char) =>
          match item with
          | some name => readWithin budget name
          | none => .error (.invalidName cs)
        match collect ((tupleItems 1 [] (cs.drop 1)).map read) with
        | .ok ts => .ok (.tuple ts)
        | .error f => .error f
      else .error (.invalidName cs)
    | some ']' =>
      let (element, size) := splitArray cs
      if size = [] then
        match readWithin budget element with
        | .ok t => .ok (.array t)
        | .error f => .error f
      else
        match readSize size with
        | .error f => .error f
        | .ok n =>
          match readWithin budget element with
          | .ok t => .ok (.fixedArray t n)
          | .error f => .error f
    | _ => readElementary cs

/-- The type that a name stands for. Every part of a name is shorter than the name, so the budget
suffices. -/
def ParamType.read (cs : List Char) : Except TypeNameFault ParamType :=
  readWithin (cs.length + 1) cs

end BridgeWatch.Abi
