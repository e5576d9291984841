/-!
# Decimal numerals

Natural numbers are written without leading zeros (`decimal`). The reader `readNumeral limit` takes
a numeral that may start with a plus sign and refuses, at the first character that decides it, a
text that is no numeral or a number above `limit`.
-/

namespace BridgeWatch.Text

/-- The decimal digits of a number. -/
def decimalDigits (n : Nat) : List Char := Nat.toDigits 10 n

/-- A number in decimal. -/
def decimal (n : Nat) : String := String.ofList (decimalDigits n)

/-- An integer in decimal, with a minus sign if it is negative. -/
def signedDecimal : Int → String
  | .ofNat n => decimal n
  | .negSucc n => "-" ++ decimal (n + 1)

/-- Why a text is no number of the wanted size. -/
inductive NumeralFault
  | empty
  | invalidDigit
  | tooLarge
  deriving DecidableEq, Repr

/-- The wording of a refused numeral. -/
def NumeralFault.message : NumeralFault → String
  | .empty => "cannot parse integer from empty string"
  | .invalidDigit => "invalid digit found in string"
  | .tooLarge => "number too large to fit in target type"

/-- The value of a decimal digit. -/
def digit? (c : Char) : Option Nat :=
  if c.isDigit then some (c.toNat - 48) else none

/-- Reads digits after the number `value` already read, up to `limit`. -/
def readDigits (limit value : Nat) : List Char → Except NumeralFault Nat
  | [] => .ok value
  | c :: cs =>
    match digit? c with
    | none => .error .invalidDigit
    | some d =>
      if limit < value * 10 + d then .error .tooLarge
      else readDigits limit (value * 10 + d) cs

/-- Reads a numeral of at most `limit`, with an optional plus sign. -/
def readNumeral (limit : Nat) : List Char → Except NumeralFault Nat
  | [] => .error .empty
  | ['+'] => .error .invalidDigit
  | '+' :: cs => readDigits limit 0 cs
  | cs => readDigits limit 0 cs

/-- The largest number of 64 bits. -/
def maxWord64 : Nat := UInt64.size - 1

end BridgeWatch.Text
