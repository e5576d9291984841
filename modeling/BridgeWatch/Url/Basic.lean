import BridgeWatch.Text.Decimal
import BridgeWatch.Url.Host
import BridgeWatch.Url.Path

/-!
# URLs

A URL in its parts, and the reader of absolute URLs (`Url.parse`). Controls and spaces at the ends
of a text and line breaks and tabs inside it count for nothing. The sort of a scheme decides how
the rest is read: a web address (`http`, `https`, `ws`, `wss`, `ftp`) has a host whatever the
number of slashes in front of it; a file may have one; any other URL has one behind two slashes,
and without a slash it has a flat path, which nothing can be relative to.

`Url.resolve` joins a relative path to a URL: it takes the place of the last segment, and of the
query.
-/

namespace BridgeWatch

/-- The sorts of schemes. -/
inductive SchemeSort
  | web
  | file
  | other
  deriving DecidableEq, Repr

/-- The path of a URL. -/
inductive UrlPath
  /-- A text that has no parts. -/
  | flat (text : List Char)
  | segments (path : Url.Path)
  deriving DecidableEq, Repr, Inhabited

/-- A URL in its parts. -/
structure Url where
  scheme : List Char
  /-- What stands in front of the host, escaped; empty for none. -/
  userInfo : List Char
  /-- The host; a URL may have none. -/
  host : Option Host
  /-- The port, unless it is the usual one of the scheme. -/
  port : Option Nat
  path : UrlPath
  query : Option (List Char)
  fragment : Option (List Char)
  deriving DecidableEq, Repr, Inhabited

namespace Url

/-- The sort of a scheme. -/
def sortOf (scheme : List Char) : SchemeSort :=
  if ["http", "https", "ws", "wss", "ftp"].contains (String.ofList scheme) then .web
  else if scheme = "file".toList then .file
  else .other

/-- The usual port of a scheme. -/
def usualPort? (scheme : List Char) : Option Nat :=
  match String.ofList scheme with
  | "http" | "ws" => some 80
  | "https" | "wss" => some 443
  | "ftp" => some 21
  | _ => none

/-- A control character or a space. -/
def isOuterBlank (c : Char) : Bool := c.toNat ≤ 0x20

/-- A tab or a line break. -/
def isInnerBlank (c : Char) : Bool := c == '\t' || c == '\n' || c == '\r'

/-- A text without what counts for nothing in a URL. -/
def stripped (cs : List Char) : List Char :=
  let cs := cs.dropWhile isOuterBlank
  let cs := (cs.reverse.dropWhile isOuterBlank).reverse
  cs.filter fun c => !isInnerBlank c

/-! ## Scheme -/

/-- A character of a scheme behind its first one. -/
def isSchemeChar (c : Char) : Bool := c.isAlphanum || c == '+' || c == '-' || c == '.'

/-- The scheme of a text in lowercase, and what follows its colon. -/
def splitScheme? (cs : List Char) : Option (List Char × List Char) :=
  match cs with
  | [] => none
  | c :: _ =>
    if c.isAlpha then
      match cs.dropWhile isSchemeChar with
      | ':' :: rest => some ((cs.takeWhile isSchemeChar).map Char.toLower, rest)
      | _ => none
    else none

/-! ## Path, query and fragment -/

/-- What follows a host or scheme, cut into path, query and fragment. -/
def splitTail (cs : List Char) : List Char × Option (List Char) × Option (List Char) :=
  let body := cs.takeWhile (· ≠ '#')
  let fragment := match cs.dropWhile (· ≠ '#') with
    | [] => none
    | _ :: f => some f
  let query := match body.dropWhile (· ≠ '?') with
    | [] => none
    | _ :: q => some q
  (body.takeWhile (· ≠ '?'), query, fragment)

/-- The path that a text behind a host gives. That of a web address or a file is never empty. -/
def rootedPath (sort : SchemeSort) (cs : List Char) : Path :=
  let web := sort ≠ .other
  match cs with
  | [] => if web then [[]] else []
  | c :: rest => Path.extend web [] (if Path.isSlash web c then rest else cs)

/-- Puts path, query and fragment to the parts in front of them. -/
def withTail (u : Url) (path : List Char → UrlPath) (cs : List Char) : Url :=
  let (p, query, fragment) := splitTail cs
  { u with
    path := path p
    query := query.map (escape (inQuery (sortOf u.scheme ≠ .other)))
    fragment := fragment.map (escape inFragment) }

/-! ## Authority -/

/-- A character that ends an authority. -/
def endsAuthority (web : Bool) (c : Char) : Bool :=
  c == '/' || c == '?' || c == '#' || (web && c == '\\')

/-- What stands in front of the last `@` of an authority and behind it. -/
def splitUserInfo (cs : List Char) : Option (List Char) × List Char :=
  match cs.reverse.dropWhile (· ≠ '@') with
  | [] => (none, cs)
  | _ :: before => (some before.reverse, (cs.reverse.takeWhile (· ≠ '@')).reverse)

/-- A user's name and password, escaped, with one colon between them. -/
def escapedUserInfo (cs : List Char) : List Char :=
  let name := escape inUserInfo (cs.takeWhile (· ≠ ':'))
  match cs.dropWhile (· ≠ ':') with
  | [] | [_] => name
  | _ :: password => name ++ ':' :: escape inUserInfo password

/-- The host part of a text and what follows it: a colon outside brackets ends it. -/
def splitHost (inBrackets : Bool) : List Char → List Char × List Char
  | [] => ([], [])
  | c :: cs =>
    if c = ':' ∧ !inBrackets then ([], c :: cs)
    else
      let inBrackets := if c = '[' then true else if c = ']' then false else inBrackets
      let (host, rest) := splitHost inBrackets cs
      (c :: host, rest)

/-- Reads the digits of a port. -/
def readPort (value : Nat) : List Char → Except UrlFault Nat
  | [] => .ok value
  | c :: cs =>
    match Text.digit? c with
    | none => .error .invalidPort
    | some d =>
      if 65535 < value * 10 + d then .error .invalidPort else readPort (value * 10 + d) cs

/-- Reads the port behind a host: nothing, or a colon and digits, of which there may be none. -/
def port? (scheme : List Char) : List Char → Except UrlFault (Option Nat)
  | ':' :: c :: cs =>
    (readPort 0 (c :: cs)).map fun n => if usualPort? scheme = some n then none else some n
  | _ => .ok none

/-- Reads host and port of an authority. A web address needs a host, and so does a port, and a URL
with something in front of its host. -/
def readHostPort (sort : SchemeSort) (scheme userInfo cs : List Char) :
    Except UrlFault (Option Host × Option Nat) := do
  let (hostText, portText) := splitHost false cs
  if sort = .web ∧ hostText = [] then throw .emptyHost
  let host ← if sort = .web then Host.readWeb hostText else Host.readAny hostText
  let isEmpty := host == .domain []
  if isEmpty ∧ portText ≠ [] then throw .emptyHost
  let port ← port? scheme portText
  if isEmpty ∧ userInfo ≠ [] then throw .emptyHost
  return (if isEmpty then none else some host, port)

/-- Reads a URL from behind its scheme and the slashes in front of its authority. -/
def readAuthority (sort : SchemeSort) (scheme cs : List Char) : Except UrlFault Url := do
  let web := sort = .web
  let authority := cs.takeWhile fun c => !endsAuthority web c
  let rest := cs.dropWhile fun c => !endsAuthority web c
  let (userText, hostText) := splitUserInfo authority
  if userText = some [] ∧ hostText = [] ∧ rest ≠ [] then throw .emptyHost
  let userInfo := escapedUserInfo (userText.getD [])
  let (host, port) ← readHostPort sort scheme userInfo hostText
  return withTail ⟨scheme, userInfo, host, port, .flat [], none, none⟩
    (fun p => .segments (rootedPath sort p)) rest

/-! ## Files -/

/-- The name of a drive: a letter and a colon or bar. -/
def isDrive : List Char → Bool
  | [c, d] => c.isAlpha && (d == ':' || d == '|')
  | _ => false

/-- Reads the host of a file; a drive is none, and neither is the own machine. -/
def readFileHost (cs : List Char) : Except UrlFault (Option Host) :=
  if cs = [] then .ok none
  else (Host.readWeb cs).map fun h => if h = .domain "localhost".toList then none else some h

/-- Reads a file's URL from behind its scheme. -/
def readFile (scheme cs : List Char) : Except UrlFault Url := do
  let slashes := (cs.takeWhile (Path.isSlash true)).length
  let after := cs.drop 2
  let hostText := after.takeWhile fun c => !endsAuthority true c
  let hasHost := 2 ≤ slashes ∧ !isDrive hostText
  let host ← if hasHost then readFileHost hostText else .ok none
  let rest := if hasHost then after.drop hostText.length else cs.drop (min slashes 2)
  return withTail ⟨scheme, [], host, none, .flat [], none, none⟩
    (fun p => .segments (rootedPath .file p)) rest

/-! ## URLs -/

/-- Reads a URL from behind its scheme. -/
def readRest (scheme cs : List Char) : Except UrlFault Url :=
  match sortOf scheme with
  | .web => readAuthority .web scheme (cs.dropWhile (Path.isSlash true))
  | .file => readFile scheme cs
  | .other =>
    let u : Url := ⟨scheme, [], none, none, .flat [], none, none⟩
    match cs with
    | '/' :: '/' :: rest => readAuthority .other scheme rest
    | '/' :: rest => .ok (withTail u (fun p => .segments (Path.extend false [] p)) rest)
    | _ => .ok (withTail u (fun p => .flat (escape isUnprintable p)) cs)

/-- Reads an absolute URL. -/
def parse (s : String) : Except UrlFault Url :=
  match splitScheme? (stripped s.toList) with
  | some (scheme, rest) => readRest scheme rest
  | none => .error .relativeWithoutBase

/-- The URL as a place for relative paths: its path ends with a slash. -/
def asDirectory (u : Url) : Url :=
  match u.path with
  | .segments path => { u with path := .segments path.asDirectory }
  | .flat text => if text.getLast? = some '/' then u else { u with path := .flat (text ++ ['/']) }

/-- Joins a relative path, which starts neither with a scheme nor with a slash. -/
def resolve (base : Url) (path : List Char) : Except UrlFault Url :=
  match base.path with
  | .flat _ => .error .relativeToFlatBase
  | .segments segments =>
    let web := sortOf base.scheme ≠ .other
    .ok (withTail base (fun p => .segments (Path.extend web segments.dropLast p)) (stripped path))

/-- What a request asks the host for: path and query. -/
def target (u : Url) : List Char :=
  let path := match u.path with
    | .flat text => text
    | .segments path => path.text
  match u.query with
  | none => path
  | some q => path ++ '?' :: q

end Url

end BridgeWatch
