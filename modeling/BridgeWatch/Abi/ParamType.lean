import BridgeWatch.Text.Decimal

/-!
# Types of contract data

The types that a declaration can name, and their canonical text: widths and lengths in decimal, no
blanks, tuples in parentheses.
-/

namespace BridgeWatch.Abi

/-- The type of a parameter. -/
inductive ParamType
  | address
  | bytes
  | bool
  | string
  | int (bits : Nat)
  | uint (bits : Nat)
  | fixedBytes (size : Nat)
  | array (element : ParamType)
  | fixedArray (element : ParamType) (length : Nat)
  | tuple (parts : List ParamType)
  deriving Repr, Inhabited

/-- Texts joined by commas. -/
def joinCommas : List (List Char) → List Char
  | [] => []
  | [w] => w
  | w :: ws => w ++ ',' :: joinCommas ws

namespace ParamType

mutual

/-- The canonical text of a type. -/
def text : ParamType → List Char
  | address => "address".toList
  | bytes => "bytes".toList
  | bool => "bool".toList
  | string => "string".toList
  | int n => "int".toList ++ Text.decimalDigits n
  | uint n => "uint".toList ++ Text.decimalDigits n
  | fixedBytes n => "bytes".toList ++ Text.decimalDigits n
  | array t => t.text ++ ['[', ']']
  | fixedArray t n => t.text ++ '[' :: (Text.decimalDigits n ++ [']'])
  | tuple ts => '(' :: (joinCommas (texts ts) ++ [')'])

/-- The canonical texts of some types. -/
def texts : List ParamType → List (List Char)
  | [] => []
  | t :: ts => t.text :: texts ts

end

theorem texts_eq_map (ts : List ParamType) : texts ts = ts.map text := by
  induction ts with
  | nil => rfl
  | cons t ts ih => simp [texts, ih]

end ParamType

end BridgeWatch.Abi
