import BridgeWatch.Text.Decimal
import BridgeWatch.Text.Search
import BridgeWatch.Words

/-!
# Reading addresses

A configured address is forty hex digits of either case, with or without `0x` in front. Spaces,
tabs and line breaks between the digits count for nothing. A character among the first forty digits
that is none is reported with its position; anything else is a matter of length.
-/

namespace BridgeWatch

/-- Why a text is no address. -/
inductive AddressFault
  /-- A character that is no digit, and the bytes in front of it. -/
  | invalidCharacter (c : Char) (position : Nat)
  /-- Not forty digits. -/
  | invalidLength
  deriving DecidableEq, Repr

/-- The wording of a refused address. -/
def AddressFault.message : AddressFault → String
  | .invalidCharacter c position =>
    "Invalid character '" ++ String.singleton c ++ "' at position " ++ Text.decimal position
  | .invalidLength => "Invalid input length"

namespace Address

/-- A character that may stand between the digits of an address. -/
def isGap (c : Char) : Bool := c == ' ' || c == '\r' || c == '\n' || c == '\t'

/-- Reads digits into `value`, of which `missing` more are wanted; `position` counts the bytes
passed. Behind the last digit only gaps may follow. -/
def readDigits (value missing position : Nat) : List Char → Except AddressFault Nat
  | [] => if missing = 0 then .ok value else .error .invalidLength
  | c :: cs =>
    if isGap c then readDigits value missing (position + 1) cs
    else
      match missing with
      | 0 => .error .invalidLength
      | missing + 1 =>
        match Text.Hex.digit? c with
        | none => .error (.invalidCharacter c position)
        | some d => readDigits (value * 16 + d) missing (position + 1) cs

/-- The address that a configured text gives. -/
def read (s : String) : Except AddressFault Address :=
  (readDigits 0 40 0 (Text.Hex.dropMark s.toList)).map fun n => ⟨BitVec.ofNat 160 n⟩

end Address

end BridgeWatch
