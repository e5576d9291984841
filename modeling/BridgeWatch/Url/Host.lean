import BridgeWatch.Text.Blank
import BridgeWatch.Text.Hex
import BridgeWatch.Text.Lowercase
import BridgeWatch.Url.Escape
import BridgeWatch.Url.Fault

/-!
# Hosts

The host of a URL is an address of version 4 or 6, or a domain name. `Host.readWeb` reads the host
of a web address: escapes are resolved, the name is put into lowercase, and a name that ends in a
number has to be an address of version 4, in any of its traditional forms. `Host.readAny` reads the
host of any other URL and keeps it as it is written.
-/

namespace BridgeWatch

/-- The host of a URL. -/
inductive Host
  | domain (name : List Char)
  | ipv4 (address : Nat)
  | ipv6 (groups : List Nat)
  deriving DecidableEq, Repr, Inhabited

namespace Host

/-! ## Addresses of version 4 -/

/-- The number that digits of a base give. -/
def numberIn? (base : Nat) (cs : List Char) : Option Nat :=
  cs.foldl (fun value c => value.bind fun v => (Text.Hex.digit? c).bind fun d =>
    if d < base then some (v * base + d) else none) (some 0)

/-- A part of an address of version 4: hexadecimal behind `0x`, octal behind `0`, else decimal. -/
def ipv4Part? : List Char → Option Nat
  | [] => none
  | '0' :: 'x' :: cs | '0' :: 'X' :: cs => numberIn? 16 cs
  | '0' :: c :: cs => numberIn? 8 (c :: cs)
  | cs => numberIn? 10 cs

/-- The address that the parts give: each but the last is a byte, and the last fills the bytes that
are left. -/
def ipv4OfParts? (parts : List Nat) : Option Nat :=
  match parts.getLast? with
  | none => none
  | some last =>
    let bytes := parts.dropLast
    if 4 < parts.length ∨ bytes.any (255 < ·) ∨ Nat.pow 256 (4 - bytes.length) ≤ last then none
    else some (bytes.foldr (fun b rest => b * 16777216 + rest / 256) 0 + last)

/-- The parts of a name between its points, without an empty one at the end. -/
def nameParts (cs : List Char) : List (List Char) :=
  let ps := Text.pieces (· == '.') cs
  if ps.getLast? = some [] then ps.dropLast else ps

/-- The last part of a name is a number. -/
def endsInNumber (cs : List Char) : Bool :=
  match (nameParts cs).getLast? with
  | none => false
  | some part => (!part.isEmpty && part.all Char.isDigit) || (ipv4Part? part).isSome

/-- Reads an address of version 4. -/
def readIpv4 (cs : List Char) : Except UrlFault Nat :=
  match (nameParts cs).mapM ipv4Part? with
  | none => .error .invalidIpv4
  | some parts =>
    match ipv4OfParts? parts with
    | none => .error .invalidIpv4
    | some n => .ok n

/-! ## Addresses of version 6 -/

/-- A group of an address of version 6: one to four digits. -/
def group? (cs : List Char) : Option Nat :=
  if 1 ≤ cs.length ∧ cs.length ≤ 4 then Text.Hex.toNat? cs else none

/-- A byte in decimal without leading zeros. -/
def byteText? (cs : List Char) : Option Nat :=
  if cs.length ≤ 3 ∧ (cs.head? ≠ some '0' ∨ cs = ['0']) ∧ cs ≠ [] then
    (numberIn? 10 cs).bind fun n => if n ≤ 255 then some n else none
  else none

/-- Four bytes between points, as two groups. -/
def quad? (cs : List Char) : Option (List Nat) :=
  match (Text.pieces (· == '.') cs).mapM byteText? with
  | some [a, b, c, d] => some [a * 256 + b, c * 256 + d]
  | _ => none

/-- The groups between colons; if `last` says so, the last of them may be four bytes. -/
def groups? (last : Bool) : List (List Char) → Option (List Nat)
  | [] => some []
  | [w] =>
    match group? w with
    | some n => some [n]
    | none => if last then quad? w else none
  | w :: ws => (group? w).bind fun n => (groups? last ws).map (n :: ·)

/-- The groups of a part of an address, which may be empty. -/
def groupsOf? (last : Bool) (cs : List Char) : Option (List Nat) :=
  if cs = [] then some [] else groups? last (Text.pieces (· == ':') cs)

/-- What stands in front of the first `::` and behind it. -/
def splitGap? : List Char → Option (List Char × List Char)
  | [] => none
  | ':' :: ':' :: cs => some ([], cs)
  | c :: cs => (splitGap? cs).map fun (before, after) => (c :: before, after)

/-- Eight groups, of which `::` may replace one or more zeros in a row. -/
def ipv6Groups? (cs : List Char) : Option (List Nat) :=
  match splitGap? cs with
  | none => (groupsOf? true cs).bind fun gs => if gs.length = 8 then some gs else none
  | some (before, after) =>
    (groupsOf? false before).bind fun gs => (groupsOf? true after).bind fun hs =>
      if gs.length + hs.length ≤ 7 then
        some (gs ++ List.replicate (8 - gs.length - hs.length) 0 ++ hs)
      else none

/-- Reads an address of version 6 from behind its opening bracket. -/
def readIpv6 (cs : List Char) : Except UrlFault Host :=
  if cs.getLast? = some ']' then
    match ipv6Groups? cs.dropLast with
    | some gs => .ok (.ipv6 gs)
    | none => .error .invalidIpv6
  else .error .invalidIpv6

/-! ## Domain names -/

/-- A character that a name in a web address must not hold. -/
def isForbidden (c : Char) : Bool :=
  c.toNat ≤ 0x20 || c.toNat == 0x7F || c == Text.Utf8.replacement ||
    ['%', '#', '/', ':', '<', '>', '?', '@', '[', '\\', ']', '^', '|'].contains c

/-- A name in its usual form: wide characters as ASCII, ideographic points as points, lowercase. -/
def usualForm (cs : List Char) : List Char :=
  Text.lower <| cs.map fun c =>
    let n := c.toNat
    if 0xFF01 ≤ n ∧ n ≤ 0xFF5E then Char.ofNat (n - 0xFEE0)
    else if n = 0x3002 ∨ n = 0xFF61 then '.'
    else c

/-- Reads the host of a web address. -/
def readWeb : List Char → Except UrlFault Host
  | '[' :: cs => readIpv6 cs
  | cs =>
    let name := usualForm (Text.Utf8.decodeLossy (Url.unescape cs))
    if name.any isForbidden then .error .invalidDomain
    else if name = [] then .error .emptyHost
    else if endsInNumber name then (readIpv4 name).map .ipv4
    else .ok (.domain name)

/-- A character that no host may hold. -/
def isForbiddenAnywhere (c : Char) : Bool :=
  ['\x00', '\t', '\n', '\r', ' ', '#', '/', ':', '<', '>', '?', '@', '[', '\\', ']', '^',
    '|'].contains c

/-- Reads the host of a URL that is no web address; it may be empty. -/
def readAny : List Char → Except UrlFault Host
  | '[' :: cs => readIpv6 cs
  | cs =>
    if cs.any isForbiddenAnywhere then .error .invalidHostCharacter
    else .ok (.domain (Url.escape Url.isUnprintable cs))

end Host

end BridgeWatch
