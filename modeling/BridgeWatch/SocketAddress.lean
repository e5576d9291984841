import BridgeWatch.Text.Decimal
import BridgeWatch.Url.Host

/-!
# Socket addresses

Where a server listens: an address of version 4 or 6 and a port. An address of version 6 is given in
brackets. `SocketAddress.text` writes an address in its shortest form.
-/

namespace BridgeWatch

/-- An address and a port. -/
inductive SocketAddress
  | ipv4 (bytes : List Nat) (port : UInt16)
  | ipv6 (groups : List Nat) (port : UInt16)
  deriving DecidableEq, Repr

namespace SocketAddress

/-- Reads four bytes between points. -/
def quad? (cs : List Char) : Option (List Nat) :=
  ((Text.pieces (· == '.') cs).mapM Host.byteText?).filter fun bytes => bytes.length = 4

/-- The socket address of a host, which has to be an address, and a port. -/
def read? (host : String) (port : UInt16) : Option SocketAddress :=
  match host.toList with
  | '[' :: cs =>
    if cs.getLast? = some ']' then (Host.ipv6Groups? cs.dropLast).map (.ipv6 · port) else none
  | cs => (quad? cs).map (.ipv4 · port)

/-- Bytes between points. -/
def quadText (bytes : List Nat) : String := ".".intercalate (bytes.map Text.decimal)

/-- Groups between colons. -/
def groupsText (groups : List Nat) : String :=
  ":".intercalate (groups.map fun g => String.ofList (Text.Hex.minimal g))

/-- How many zeros the groups start with. -/
def zeros (groups : List Nat) : Nat := (groups.takeWhile (· = 0)).length

/-- Place and length of the first longest row of zeros from the place `start` on. -/
def longestZeros (start : Nat) : List Nat → Nat × Nat
  | [] => (start, 0)
  | g :: gs =>
    let here := zeros (g :: gs)
    let later := longestZeros (start + 1) gs
    if later.2 ≤ here then (start, here) else later

/-- An address of version 6. The first longest row of at least two zeros becomes `::`; an address
that stands for one of version 4 shows it. -/
def ipv6Text (groups : List Nat) : String :=
  match groups with
  | [0, 0, 0, 0, 0, 0xffff, a, b] => "::ffff:" ++ quadText [a / 256, a % 256, b / 256, b % 256]
  | _ =>
    let (place, count) := longestZeros 0 groups
    if count < 2 then groupsText groups
    else groupsText (groups.take place) ++ "::" ++ groupsText (groups.drop (place + count))

/-- The text of a socket address. -/
def text : SocketAddress → String
  | ipv4 bytes port => quadText bytes ++ ":" ++ Text.decimal port.toNat
  | ipv6 groups port => "[" ++ ipv6Text groups ++ "]:" ++ Text.decimal port.toNat

end SocketAddress

end BridgeWatch
