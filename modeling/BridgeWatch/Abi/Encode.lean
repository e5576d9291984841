import BridgeWatch.Abi.Token

/-!
# Encoding contract data

The standard encoding of parameter values: a head of one word a value, then the tails of the byte
strings and texts in order. The head word of such a value is the offset of its tail, which is a
length word and the bytes, filled up with zeros to whole words.
-/

namespace BridgeWatch.Abi

/-- A number as a word of 32 bytes. -/
def numberWord (n : Nat) : Bytes := Bytes.ofNatural 32 n

/-- Bytes filled up with zeros to whole words. -/
def padded (bs : Bytes) : Bytes := bs ++ List.replicate ((32 - bs.length % 32) % 32) 0

/-- Length and bytes of a byte string. -/
def tailOf (bs : Bytes) : Bytes := numberWord bs.length ++ padded bs

/-- The head word of a value of fixed size, or the tail of any other. -/
inductive Encoded
  | static (word : Bytes)
  | dynamic (tail : Bytes)
  deriving DecidableEq, Repr

/-- How a value is encoded. -/
def encoded : Token → Encoded
  | .address a => .static (numberWord a.word.toNat)
  | .uint n => .static (numberWord n.word.toNat)
  | .fixedBytes bs => .static (padded bs)
  | .bytes bs => .dynamic (tailOf bs)
  | .string cs => .dynamic (tailOf (Text.Utf8.encode cs))

/-- The tail of an encoded value. -/
def Encoded.tail : Encoded → Bytes
  | .static _ => []
  | .dynamic bs => bs

/-- The head words of encoded values; `offset` is where the tail of the first of them stands. -/
def heads (offset : Nat) : List Encoded → Bytes
  | [] => []
  | .static word :: vs => word ++ heads offset vs
  | .dynamic tail :: vs => numberWord offset ++ heads (offset + tail.length) vs

/-- The encoding of some values. -/
def encode (values : List Token) : Bytes :=
  let vs := values.map encoded
  heads (32 * vs.length) vs ++ (vs.map Encoded.tail).flatten

end BridgeWatch.Abi
