import BridgeWatch.Abi.ParamType
import BridgeWatch.Abi.Token

/-!
# Decoding contract data

`decode` reads the values of some parameters from the data of a log. Parameter number `i` has its
head word at byte `32 * i`. A value of fixed size stands in the head word itself. A byte string or
text stands where the head word says: at that offset from the start of the data there is a length
word and behind it the bytes, neither aligned nor padded. Data behind what is read counts for
nothing, and values may overlap.

Only types that a field of an event can have are read; a parameter of any other type is refused.
-/

namespace BridgeWatch.Abi

/-- Why data holds no values of the wanted types. -/
inductive DecodeFault
  /-- There are parameters but there is no data at all. -/
  | noData
  /-- A word or byte string does not lie within the data, or an offset or length is too large. -/
  | invalidData
  deriving DecidableEq, Repr

/-- The wording of data that cannot be decoded. -/
def DecodeFault.message : DecodeFault → String
  | .noData =>
    "Invalid name: please ensure the contract and method you're calling exist! failed to decode " ++
      "empty bytes. if you're using jsonrpc this is likely due to jsonrpc returning `0x` in " ++
      "case contract or method don't exist"
  | .invalidData => "Invalid data"

/-- Some bytes at an offset, if the data reaches that far. -/
def slice? (data : Bytes) (offset size : Nat) : Option Bytes :=
  if offset + size ≤ data.length then some ((data.drop offset).take size) else none

/-- The word of 32 bytes at an offset. -/
def word? (data : Bytes) (offset : Nat) : Option Bytes := slice? data offset 32

/-- A word as an offset or length: its first 28 bytes have to be zero. -/
def small? (word : Bytes) : Option Nat :=
  if (word.take 28).all (· == 0) then some (Bytes.natural (word.drop 28)) else none

/-- The byte string that the head word at an offset points to. -/
def tail? (data : Bytes) (head : Nat) : Option Bytes :=
  (word? data head).bind fun pointer =>
    (small? pointer).bind fun start =>
      (word? data start).bind fun length =>
        (small? length).bind fun size => slice? data (start + 32) size

/-- The value of a parameter whose head word stands at an offset. -/
def decodeAt (data : Bytes) (head : Nat) : ParamType → Option Token
  | .address => (word? data head).map fun w => .address (Address.ofBytes (w.drop 12))
  | .uint _ => (word? data head).map fun w => .uint (Amount.ofBytes w)
  | .fixedBytes size => (slice? data head size).map .fixedBytes
  | .bytes => (tail? data head).map .bytes
  | .string => (tail? data head).map fun bs => .string (Text.Utf8.decodeLossy bs)
  | _ => none

/-- The values of parameters whose head words start at an offset. -/
def decodeFrom (data : Bytes) (head : Nat) : List ParamType → Option (List Token)
  | [] => some []
  | t :: ts =>
    (decodeAt data head t).bind fun v => (decodeFrom data (head + 32) ts).map (v :: ·)

/-- The values of the given types that the data starts with. -/
def decode (types : List ParamType) (data : Bytes) : Except DecodeFault (List Token) :=
  if data = [] ∧ types ≠ [] then .error .noData
  else
    match decodeFrom data 0 types with
    | some values => .ok values
    | none => .error .invalidData

end BridgeWatch.Abi
