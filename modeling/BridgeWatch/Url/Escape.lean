import BridgeWatch.Text.Hex
import BridgeWatch.Text.Utf8

/-!
# Percent escapes

Characters that cannot stand in a part of a URL are written as the bytes of their UTF-8 form, each
as `%` and two digits. Which characters these are depends on the part; controls and characters
beyond ASCII are escaped everywhere, the sign `%` itself nowhere.
-/

namespace BridgeWatch.Url

/-- The capital digit of a number below 16. -/
def capitalDigit (n : Nat) : Char := Char.ofNat (if n < 10 then 48 + n else 55 + n)

/-- A byte as `%` and two digits. -/
def escapedByte (b : UInt8) : List Char :=
  ['%', capitalDigit (b.toNat / 16), capitalDigit (b.toNat % 16)]

/-- A text in which the characters that satisfy `p` are escaped. -/
def escape (p : Char → Bool) (cs : List Char) : List Char :=
  cs.flatMap fun c => if p c then (String.utf8EncodeChar c).flatMap escapedByte else [c]

/-- A control character, or one beyond ASCII. -/
def isUnprintable (c : Char) : Bool := c.toNat < 0x20 || 0x7E < c.toNat

/-- The characters that are escaped in a path. -/
def inPath (c : Char) : Bool :=
  isUnprintable c || [' ', '"', '#', '<', '>', '?', '\x60', '\x7b', '\x7d'].contains c

/-- The characters that are escaped in a query; the apostrophe only in that of a web address. -/
def inQuery (web : Bool) (c : Char) : Bool :=
  isUnprintable c || [' ', '"', '#', '<', '>'].contains c || (web && c == '\x27')

/-- The characters that are escaped in a fragment. -/
def inFragment (c : Char) : Bool :=
  isUnprintable c || [' ', '"', '<', '>', '\x60'].contains c

/-- The characters that are escaped in front of the host. -/
def inUserInfo (c : Char) : Bool :=
  inPath c || ['/', ':', ';', '=', '@', '[', '\\', ']', '^', '|'].contains c

/-- The bytes that a text with escapes stands for. A `%` without two digits stands for itself. -/
def unescape : List Char → Bytes
  | '%' :: a :: b :: cs =>
    match Text.Hex.digit? a, Text.Hex.digit? b with
    | some x, some y => UInt8.ofNat (x * 16 + y) :: unescape cs
    | _, _ => 37 :: unescape (a :: b :: cs)
  | c :: cs => String.utf8EncodeChar c ++ unescape cs
  | [] => []

theorem escape_append (p : Char → Bool) (cs ds : List Char) :
    escape p (cs ++ ds) = escape p cs ++ escape p ds := by
  simp [escape]

end BridgeWatch.Url
