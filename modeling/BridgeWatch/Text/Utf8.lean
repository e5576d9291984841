import BridgeWatch.Bytes

/-!
# UTF-8

`encode` writes a text as UTF-8. `decodeLossy` reads any bytes whatsoever: each longest part that
could begin a character but does not go on as one becomes a single U+FFFD.

The reader walks over the bytes once. Between two bytes it either stands at a character's start or
holds a `Pending` character: how many bytes are still missing, between which bounds the next one has
to lie, and the bits read so far.
-/

namespace BridgeWatch.Text.Utf8

/-- A text as UTF-8. -/
def encode (cs : List Char) : Bytes := cs.flatMap String.utf8EncodeChar

/-- The character that stands for what is no character. -/
def replacement : Char := '\uFFFD'

/-- A character of which the first bytes are read. -/
structure Pending where
  /-- Bytes still missing. -/
  missing : Nat
  /-- The least value of the next byte. -/
  least : Nat
  /-- The greatest value of the next byte. -/
  greatest : Nat
  /-- The bits read so far. -/
  bits : Nat
  deriving DecidableEq, Repr

/-- What a byte at a character's start gives: a whole character, the beginning of one, or a byte
that starts none. The bounds keep out overlong forms, surrogates and numbers above U+10FFFF. -/
def start (b : UInt8) : List Char × Option Pending :=
  let n := b.toNat
  if n < 0x80 then ([Char.ofNat n], none)
  else if n < 0xC2 then ([replacement], none)
  else if n < 0xE0 then ([], some ⟨1, 0x80, 0xBF, n - 0xC0⟩)
  else if n < 0xF0 then
    ([], some ⟨2, if n = 0xE0 then 0xA0 else 0x80, if n = 0xED then 0x9F else 0xBF, n - 0xE0⟩)
  else if n < 0xF5 then
    ([], some ⟨3, if n = 0xF0 then 0x90 else 0x80, if n = 0xF4 then 0x8F else 0xBF, n - 0xF0⟩)
  else ([replacement], none)

/-- What the next byte adds to a character begun. -/
def proceed (p : Pending) (b : UInt8) : List Char × Option Pending :=
  let n := b.toNat
  if p.least ≤ n ∧ n ≤ p.greatest then
    let bits := p.bits * 64 + (n - 0x80)
    if p.missing ≤ 1 then ([Char.ofNat bits], none)
    else ([], some ⟨p.missing - 1, 0x80, 0xBF, bits⟩)
  else
    let (out, next) := start b
    (replacement :: out, next)

/-- Reads bytes from a character's start or from within one. -/
def decodeFrom : Option Pending → Bytes → List Char
  | none, [] => []
  | some _, [] => [replacement]
  | none, b :: bs =>
    let (out, next) := start b
    out ++ decodeFrom next bs
  | some p, b :: bs =>
    let (out, next) := proceed p b
    out ++ decodeFrom next bs

/-- Any bytes as a text. -/
def decodeLossy (bs : Bytes) : List Char := decodeFrom none bs

end BridgeWatch.Text.Utf8
