import BridgeWatch.Text.Quoted
import BridgeWatch.Text.Utf8
import BridgeWatch.Words

/-!
# Values of contract data

The values that a parameter of an event can have. A fixed byte string is kept as bytes; a text is
the text that its bytes decode to.
-/

namespace BridgeWatch.Abi

/-- The value of a parameter. -/
inductive Token
  | address (a : Address)
  | uint (n : Amount)
  | string (text : List Char)
  | bytes (bs : Bytes)
  | fixedBytes (bs : Bytes)
  deriving DecidableEq, Repr, Inhabited

/-- Bytes as they are shown: a list of numbers. -/
def shownBytes (bs : Bytes) : String :=
  "[" ++ String.intercalate ", " (bs.map fun b => Text.decimal b.toNat) ++ "]"

/-- A value as it is shown, under the name of what it is. -/
def Token.shown : Token → String
  | address a => "Address(" ++ a.text ++ ")"
  | uint n => "Uint(" ++ n.text ++ ")"
  | string text => "String(" ++ Text.quoted (String.ofList text) ++ ")"
  | bytes bs => "Bytes(" ++ shownBytes bs ++ ")"
  | fixedBytes bs => "FixedBytes(" ++ shownBytes bs ++ ")"

end BridgeWatch.Abi
