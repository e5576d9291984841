import BridgeWatch.Assoc
import BridgeWatch.Json.Basic
import BridgeWatch.Text.Hex

/-!
# Reading JSON

`Json.parse` reads a whole text as one value. It takes exactly the grammar of JSON: blanks are the
space, the tab and the two line breaks, numbers have no leading zeros, control characters have to be
escaped, and surrogates have to come in pairs. Values nest at most 127 deep.

A refused text gives a `ReadFault`: the cause and what is left of the text after the point where it
shows, from which `ReadFault.message` computes line and column.

The reader recurs on a budget that every step spends; the budget of `Json.parse` exceeds the number
of steps a text of its length can take.

`Json.memberText?` takes the text of a member out of the text of an object, as it stands there.
-/

namespace BridgeWatch.Json

/-- Why a text is no JSON value. -/
inductive ReadCause
  | eofInList
  | eofInObject
  | eofInString
  | eofInValue
  | expectedColon
  | expectedListEnd
  | expectedObjectEnd
  | expectedWord
  | expectedValue
  | invalidEscape
  | invalidNumber
  | numberOutOfRange
  | controlCharacter
  | keyMustBeString
  | loneSurrogate
  | trailingComma
  | trailingCharacters
  | unexpectedEscapeEnd
  | nestedTooDeeply
  deriving DecidableEq, Repr

/-- The wording of a cause. -/
def ReadCause.message : ReadCause → String
  | .eofInList => "EOF while parsing a list"
  | .eofInObject => "EOF while parsing an object"
  | .eofInString => "EOF while parsing a string"
  | .eofInValue => "EOF while parsing a value"
  | .expectedColon => "expected `:`"
  | .expectedListEnd => "expected `,` or `]`"
  | .expectedObjectEnd => "expected `,` or `\x7d`"
  | .expectedWord => "expected ident"
  | .expectedValue => "expected value"
  | .invalidEscape => "invalid escape"
  | .invalidNumber => "invalid number"
  | .numberOutOfRange => "number out of range"
  | .controlCharacter => "control character (\\u0000-\\u001F) found while parsing a string"
  | .keyMustBeString => "key must be a string"
  | .loneSurrogate => "lone leading surrogate in hex escape"
  | .trailingComma => "trailing comma"
  | .trailingCharacters => "trailing characters"
  | .unexpectedEscapeEnd => "unexpected end of hex escape"
  | .nestedTooDeeply => "recursion limit exceeded"

/-- A refused text: the cause and the text behind the place where it shows. -/
structure ReadFault where
  cause : ReadCause
  rest : List Char
  deriving DecidableEq, Repr

/-- Line and column, in bytes, after the first characters of a text. -/
def lineAndColumn : List Char → Nat × Nat :=
  List.foldl (fun at_ c => if c = '\n' then (at_.1 + 1, 0) else (at_.1, at_.2 + c.utf8Size)) (1, 0)

/-- The wording of a fault found in a text. -/
def ReadFault.message (f : ReadFault) (text : List Char) : String :=
  let at_ := lineAndColumn (text.take (text.length - f.rest.length))
  f.cause.message ++ " at line " ++ Text.decimal at_.1 ++ " column " ++ Text.decimal at_.2

/-- What a part of the reader gives: a result and the rest of the text. -/
abbrev Read (α : Type) := Except ReadFault (α × List Char)

/-- Refuses after the next character, or at the end of the text. -/
def refuseAtNext {α : Type} (cause : ReadCause) (cs : List Char) : Except ReadFault α :=
  .error ⟨cause, cs.drop 1⟩

/-- Refuses at the current place. -/
def refuse {α : Type} (cause : ReadCause) (cs : List Char) : Except ReadFault α :=
  .error ⟨cause, cs⟩

/-- A blank between the parts of a value. -/
def isSpace (c : Char) : Bool := c == ' ' || c == '\n' || c == '\t' || c == '\r'

/-- A text without the blanks it starts with. -/
def skipSpace (cs : List Char) : List Char := cs.dropWhile isSpace

/-- Reads the rest of one of the three words. -/
def readWord (value : Json) : List Char → List Char → Read Json
  | [], cs => .ok (value, cs)
  | _ :: _, [] => refuse .eofInValue []
  | w :: ws, c :: cs => if w = c then readWord value ws cs else refuse .expectedWord cs

/-- The number that four digits of an escape give. -/
def readUnit : List Char → Read Nat
  | a :: b :: c :: d :: cs =>
    match Text.Hex.toNat? [a, b, c, d] with
    | some n => .ok (n, cs)
    | none => refuse .invalidEscape cs
  | _ => refuse .eofInString []

/-- Reads what follows `\u`: one unit, or two that make up a pair of surrogates. -/
def readUnits (cs : List Char) : Read Char :=
  match readUnit cs with
  | .error f => .error f
  | .ok (n, cs) =>
    if 0xDC00 ≤ n ∧ n ≤ 0xDFFF then refuse .loneSurrogate cs
    else if 0xD800 ≤ n ∧ n ≤ 0xDBFF then
      match cs with
      | '\\' :: 'u' :: cs =>
        match readUnit cs with
        | .error f => .error f
        | .ok (m, cs) =>
          if 0xDC00 ≤ m ∧ m ≤ 0xDFFF then
            .ok (Char.ofNat (0x10000 + (n - 0xD800) * 0x400 + (m - 0xDC00)), cs)
          else refuse .loneSurrogate cs
      | [] | ['\\'] => refuse .eofInString []
      | _ => refuse .unexpectedEscapeEnd (cs.drop 1)
    else .ok (Char.ofNat n, cs)

/-- Reads what follows a backslash. -/
def readEscape : List Char → Read Char
  | [] => refuse .eofInString []
  | 'u' :: cs => readUnits cs
  | c :: cs =>
    if c = '"' ∨ c = '\\' ∨ c = '/' then .ok (c, cs)
    else if c = 'b' then .ok (Char.ofNat 8, cs)
    else if c = 'f' then .ok (Char.ofNat 12, cs)
    else if c = 'n' then .ok ('\n', cs)
    else if c = 'r' then .ok ('\r', cs)
    else if c = 't' then .ok ('\t', cs)
    else refuse .invalidEscape cs

/-- Reads a string from behind its opening quotation mark; `read` holds what is read of it, last
character first. -/
def readString : (budget : Nat) → (read : List Char) → List Char → Read String
  | 0, _, cs => refuse .eofInString cs
  | _, _, [] => refuse .eofInString []
  | budget + 1, read, c :: cs =>
    if c = '"' then .ok (String.ofList read.reverse, cs)
    else if c = '\\' then
      match readEscape cs with
      | .error f => .error f
      | .ok (d, cs) => readString budget (d :: read) cs
    else if c.toNat < 0x20 then refuse .controlCharacter cs
    else readString budget (c :: read) cs

/-- The digits a text starts with, and the rest. -/
def spanDigits (cs : List Char) : List Char × List Char := cs.span Char.isDigit

/-- The number that digits continue. -/
def digitsValue (value : Nat) (ds : List Char) : Nat :=
  ds.foldl (fun v d => v * 10 + (d.toNat - 48)) value

/-- An integer as a value, or the nearest double if it has more than 64 bits or is a negative
zero. -/
def ofInteger (negative : Bool) (n : Nat) : Option Json :=
  if negative then
    if 0 < n ∧ n ≤ UInt64.size / 2 then some (.int (-(n : Int)))
    else (Binary64.ofDecimal? true n 0).map .real
  else if n < UInt64.size then some (.int n)
  else (Binary64.ofDecimal? false n 0).map .real

/-- Reads the exponent of a number from behind its letter: its value. -/
def readExponent (cs : List Char) : Read Int :=
  let (minus, cs) := match cs with
    | '-' :: cs => (true, cs)
    | '+' :: cs => (false, cs)
    | cs => (false, cs)
  match spanDigits cs with
  | ([], []) => refuse .eofInValue []
  | ([], _ :: rest) => refuse .invalidNumber rest
  | (ds, rest) => .ok ((if minus then -(digitsValue 0 ds : Int) else digitsValue 0 ds), rest)

/-- A double as a value, unless it would be infinite. -/
def finishReal (negative : Bool) (digits : Nat) (e : Int) (rest : List Char) : Read Json :=
  match Binary64.ofDecimal? negative digits e with
  | some x => .ok (.real x, rest)
  | none => refuse .numberOutOfRange rest

/-- Reads what follows the whole part of a number. -/
def readFraction (negative : Bool) (whole : Nat) : List Char → Read Json
  | '.' :: cs =>
    match spanDigits cs with
    | ([], []) => refuseAtNext .eofInValue []
    | ([], c :: cs) => refuseAtNext .invalidNumber (c :: cs)
    | (ds, c :: cs) =>
      if c = 'e' ∨ c = 'E' then
        match readExponent cs with
        | .error f => .error f
        | .ok (e, rest) => finishReal negative (digitsValue whole ds) (e - ds.length) rest
      else finishReal negative (digitsValue whole ds) (-(ds.length : Int)) (c :: cs)
    | (ds, []) => finishReal negative (digitsValue whole ds) (-(ds.length : Int)) []
  | c :: cs =>
    if c = 'e' ∨ c = 'E' then
      match readExponent cs with
      | .error f => .error f
      | .ok (e, rest) => finishReal negative whole e rest
    else
      match ofInteger negative whole with
      | some j => .ok (j, c :: cs)
      | none => refuse .numberOutOfRange (c :: cs)
  | [] =>
    match ofInteger negative whole with
    | some j => .ok (j, [])
    | none => refuse .numberOutOfRange []

/-- Reads a number from behind its sign. -/
def readNumber (negative : Bool) (cs : List Char) : Read Json :=
  match spanDigits cs with
  | ([], []) => refuse .eofInValue []
  | ([], _ :: rest) => refuse .invalidNumber rest
  | ('0' :: _ :: _, _) => refuseAtNext .invalidNumber (cs.drop 1)
  | (ds, rest) => readFraction negative (digitsValue 0 ds) rest

mutual

/-- Reads a value; `depth` bounds how deep it may nest. -/
def readValue : (budget depth : Nat) → List Char → Read Json
  | 0, _, cs => refuse .nestedTooDeeply cs
  | budget + 1, depth, cs =>
    match skipSpace cs with
    | [] => refuseAtNext .eofInValue []
    | c :: cs =>
      if c = 'n' then readWord .null ['u', 'l', 'l'] cs
      else if c = 't' then readWord (.bool true) ['r', 'u', 'e'] cs
      else if c = 'f' then readWord (.bool false) ['a', 'l', 's', 'e'] cs
      else if c = '-' then readNumber true cs
      else if c.isDigit then readNumber false (c :: cs)
      else if c = '"' then
        match readString (cs.length + 1) [] cs with
        | .error f => .error f
        | .ok (s, rest) => .ok (.str s, rest)
      else if c = '[' then
        match depth with
        | 0 => refuseAtNext .nestedTooDeeply (c :: cs)
        | depth + 1 => readElements budget depth [] cs
      else if c = '\x7b' then
        match depth with
        | 0 => refuseAtNext .nestedTooDeeply (c :: cs)
        | depth + 1 => readMembers budget depth [] cs
      else refuseAtNext .expectedValue (c :: cs)

/-- Reads the elements of an array; `read` holds those already read, last one first. -/
def readElements : (budget depth : Nat) → (read : List Json) → List Char → Read Json
  | 0, _, _, cs => refuse .nestedTooDeeply cs
  | budget + 1, depth, read, cs =>
    match skipSpace cs with
    | [] => refuseAtNext .eofInList []
    | c :: cs =>
      if c = ']' then .ok (.arr read.reverse, cs)
      else if read.isEmpty then readElement budget depth read (c :: cs)
      else if c = ',' then
        match skipSpace cs with
        | [] => refuseAtNext .eofInValue []
        | d :: cs =>
          if d = ']' then refuseAtNext .trailingComma (d :: cs)
          else readElement budget depth read (d :: cs)
      else refuseAtNext .expectedListEnd (c :: cs)

/-- Reads one element and those behind it. -/
def readElement : (budget depth : Nat) → (read : List Json) → List Char → Read Json
  | 0, _, _, cs => refuse .nestedTooDeeply cs
  | budget + 1, depth, read, cs =>
    match readValue budget depth cs with
    | .error f => .error f
    | .ok (j, rest) => readElements budget depth (j :: read) rest

/-- Reads the members of an object; `read` holds those already read, last one first. -/
def readMembers : (budget depth : Nat) → (read : List (String × Json)) → List Char → Read Json
  | 0, _, _, cs => refuse .nestedTooDeeply cs
  | budget + 1, depth, read, cs =>
    match skipSpace cs with
    | [] => refuseAtNext .eofInObject []
    | c :: cs =>
      if c = '\x7d' then .ok (.obj read.reverse, cs)
      else if read.isEmpty then readMember budget depth read (c :: cs)
      else if c = ',' then
        match skipSpace cs with
        | [] => refuseAtNext .eofInValue []
        | d :: cs =>
          if d = '\x7d' then refuseAtNext .trailingComma (d :: cs)
          else readMember budget depth read (d :: cs)
      else refuseAtNext .expectedObjectEnd (c :: cs)

/-- Reads one member and those behind it. -/
def readMember : (budget depth : Nat) → (read : List (String × Json)) → List Char → Read Json
  | 0, _, _, cs => refuse .nestedTooDeeply cs
  | _, _, _, [] => refuseAtNext .eofInValue []
  | budget + 1, depth, read, c :: cs =>
    if c = '"' then
      match readString (cs.length + 1) [] cs with
      | .error f => .error f
      | .ok (name, rest) =>
        match skipSpace rest with
        | [] => refuseAtNext .eofInObject []
        | ':' :: rest =>
          match readValue budget depth rest with
          | .error f => .error f
          | .ok (j, rest) => readMembers budget depth ((name, j) :: read) rest
        | rest => refuseAtNext .expectedColon rest
    else refuseAtNext .keyMustBeString (c :: cs)

end

/-- How deep values may nest. -/
def maxDepth : Nat := 127

/-- Reads a whole text as one value. -/
def parseChars (cs : List Char) : Except ReadFault Json :=
  match readValue (4 * cs.length + 4) maxDepth cs with
  | .error f => .error f
  | .ok (j, rest) =>
    match skipSpace rest with
    | [] => .ok j
    | rest => refuseAtNext .trailingCharacters rest

/-- Reads a whole string as one value. -/
def parse (s : String) : Except ReadFault Json := parseChars s.toList

/-! ## Texts of members -/

/-- The members of an object, from behind its bracket, each with the text of its value. -/
def memberTexts : (budget : Nat) → List Char → List (String × List Char)
  | 0, _ => []
  | budget + 1, cs =>
    match readString (cs.length + 1) [] ((skipSpace cs).drop 1) with
    | .error _ => []
    | .ok (name, rest) =>
      let value := skipSpace ((skipSpace rest).drop 1)
      match readValue (4 * value.length + 4) maxDepth value with
      | .error _ => []
      | .ok (_, rest) =>
        (name, value.take (value.length - rest.length)) ::
          memberTexts budget ((skipSpace rest).drop 1)

/-- The text of the value of a member, if the text is that of an object with such a member. -/
def memberText? (name : String) (text : List Char) : Option (List Char) :=
  Assoc.find? name (memberTexts text.length ((skipSpace text).drop 1))

end BridgeWatch.Json
