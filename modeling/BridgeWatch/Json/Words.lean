import BridgeWatch.Json.Basic
import BridgeWatch.Words

/-!
# Words in JSON

Addresses, hashes, amounts and byte strings are texts of hex digits. Reading takes digits of either
case and does without the `0x`. The width of an address or hash has to be exact; an amount has 1 to
64 digits, a 64-bit quantity 1 to 16; bytes have an even number.

There are readers of fixed words and 256-bit numbers that count blanks between the digits to the
width and skip them. These do not: they refuse such a text, and none is ever written.
-/

namespace BridgeWatch.Json

/-- The digits of a hex text, of which the number has to satisfy `fits`, as a number. A text with
blanks between the digits is none. -/
def hex? (fits : Nat → Bool) (j : Json) : Option Nat :=
  j.string?.bind fun s =>
    let digits := Text.Hex.dropMark s.toList
    if fits digits.length then Text.Hex.toNat? digits else none

/-- The value is an address. -/
def address? (j : Json) : Option Address := (j.hex? (· == 40)).map fun n => ⟨BitVec.ofNat 160 n⟩

/-- The value is a hash. -/
def hash? (j : Json) : Option Hash := (j.hex? (· == 64)).map fun n => ⟨BitVec.ofNat 256 n⟩

/-- The value is a quantity of up to 256 bits. -/
def amount? (j : Json) : Option Amount :=
  (j.hex? fun n => 1 ≤ n && n ≤ 64).map fun n => ⟨BitVec.ofNat 256 n⟩

/-- The value is a quantity of up to 64 bits. -/
def quantity? (j : Json) : Option UInt64 :=
  (j.hex? fun n => 1 ≤ n && n ≤ 16).map UInt64.ofNat

/-- The value is a byte string. -/
def bytes? (j : Json) : Option Bytes :=
  j.string?.bind fun s => Text.Hex.toBytes? (Text.Hex.dropMark s.toList)

/-- A byte string as a value. -/
def bytes (bs : Bytes) : Json := .str (Text.Hex.prefixed bs)

end BridgeWatch.Json
