import BridgeWatch.Keccak
import BridgeWatch.Text.Decimal
import BridgeWatch.Text.Hex

/-!
# Addresses, hashes and amounts

The three fixed-size words of the chains: addresses of 160 bits, hashes and amounts of 256 bits.
Each has a canonical text (`Address.text`, `Hash.text`: all digits in lowercase; `Amount.text`:
decimal; `Amount.hex`: no leading zeros) and is made from big-endian bytes.

`Address.checksum` is the mixed-case text in which the case of each letter is a bit of the hash of
the lowercase digits.
-/

namespace BridgeWatch

/-- An account or contract address. -/
structure Address where
  word : BitVec 160
  deriving DecidableEq, Repr, Inhabited

/-- A transaction hash, topic or correlation hash. -/
structure Hash where
  word : BitVec 256
  deriving DecidableEq, Repr, Inhabited

/-- An unsigned token amount. -/
structure Amount where
  word : BitVec 256
  deriving DecidableEq, Repr, Inhabited

namespace Address

/-- The address made of the low 20 bytes of a byte string. -/
def ofBytes (bs : Bytes) : Address := ⟨BitVec.ofNat 160 bs.natural⟩

/-- The twenty bytes of an address. -/
def bytes (a : Address) : Bytes := Bytes.ofNatural 20 a.word.toNat

/-- The forty lowercase digits of an address. -/
def digits (a : Address) : List Char := Text.Hex.fixed 40 a.word.toNat

/-- An address in lowercase. -/
def text (a : Address) : String := Text.Hex.marked a.digits

/-- A digit in the case that a digit of the hash asks for: capital from 8 on. -/
def checksumDigit (d h : Char) : Char :=
  match Text.Hex.digit? h with
  | some n => if 8 ≤ n then d.toUpper else d
  | none => d

/-- The digits of an address, each letter in the case that the hash of the lowercase digits asks
for. -/
def checksumDigits (a : Address) : List Char :=
  let hash := Keccak.hash (a.digits.map fun c => UInt8.ofNat c.toNat)
  List.zipWith checksumDigit a.digits (Text.Hex.ofBytes hash)

/-- An address in checked mixed case. -/
def checksum (a : Address) : String := Text.Hex.marked a.checksumDigits

end Address

namespace Hash

/-- The hash made of 32 bytes. -/
def ofBytes (bs : Bytes) : Hash := ⟨BitVec.ofNat 256 bs.natural⟩

/-- The 32 bytes of a hash. -/
def bytes (h : Hash) : Bytes := Bytes.ofNatural 32 h.word.toNat

/-- A hash as `0x` and 64 lowercase digits. -/
def text (h : Hash) : String := Text.Hex.marked (Text.Hex.fixed 64 h.word.toNat)

end Hash

namespace Amount

/-- The amount made of 32 bytes. -/
def ofBytes (bs : Bytes) : Amount := ⟨BitVec.ofNat 256 bs.natural⟩

/-- The 32 bytes of an amount. -/
def bytes (a : Amount) : Bytes := Bytes.ofNatural 32 a.word.toNat

/-- An amount in decimal. -/
def text (a : Amount) : String := Text.decimal a.word.toNat

/-- An amount as `0x` and lowercase digits, without leading zeros. -/
def hex (a : Amount) : String := Text.Hex.marked (Text.Hex.minimal a.word.toNat)

end Amount

end BridgeWatch
