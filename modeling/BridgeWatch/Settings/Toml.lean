import BridgeWatch.Settings.Tree
import BridgeWatch.Text.Blank
import BridgeWatch.Text.Hex

/-!
# Settings in TOML

The part of TOML that settings files use: tables in brackets, keys that are bare, quoted or dotted,
and values that are strings of one line, decimal integers or truth values. A name may be given only
once.

The reader goes line by line. It knows the table that the last header opened (`Document.place`) and
refuses a text with the number of the first line that it cannot take.
-/

namespace BridgeWatch.Settings.Toml

/-- A text that is refused in a line, counted from one. -/
structure Fault where
  line : Nat
  deriving DecidableEq, Repr

/-- The wording of a refused text. -/
def Fault.message (f : Fault) : String := "invalid TOML in line " ++ Text.decimal f.line

/-- A blank within a line. -/
def isSpace (c : Char) : Bool := c == ' ' || c == '\t'

/-- A text without the blanks it starts with. -/
def skipSpace (cs : List Char) : List Char := cs.dropWhile isSpace

/-- Nothing more stands in a line but blanks and a comment. -/
def endsLine (cs : List Char) : Bool :=
  match skipSpace cs with
  | [] | ['\r'] => true
  | c :: _ => c == '#'

/-! ## Strings -/

/-- The character that a number of digits behind `\u` or `\U` gives. -/
def readCodePoint? (digits : Nat) (cs : List Char) : Option (Char × List Char) :=
  if cs.length < digits then none
  else (Text.Hex.toNat? (cs.take digits)).bind fun n =>
    if n.isValidChar then some (Char.ofNat n, cs.drop digits) else none

/-- Reads what follows a backslash. -/
def readEscape? : List Char → Option (Char × List Char)
  | 'u' :: cs => readCodePoint? 4 cs
  | 'U' :: cs => readCodePoint? 8 cs
  | 'b' :: cs => some (Char.ofNat 8, cs)
  | 't' :: cs => some ('\t', cs)
  | 'n' :: cs => some ('\n', cs)
  | 'f' :: cs => some (Char.ofNat 12, cs)
  | 'r' :: cs => some ('\r', cs)
  | '"' :: cs => some ('"', cs)
  | '\\' :: cs => some ('\\', cs)
  | _ => none

/-- Reads a string with escapes from behind its opening quotation mark. -/
def readBasic? : (budget : Nat) → List Char → Option (List Char × List Char)
  | _, '"' :: cs => some ([], cs)
  | budget + 1, '\\' :: cs =>
    (readEscape? cs).bind fun (c, rest) =>
      (readBasic? budget rest).map fun (s, rest) => (c :: s, rest)
  | budget + 1, c :: cs =>
    if c.toNat < 0x20 ∧ c ≠ '\t' then none
    else (readBasic? budget cs).map fun (s, rest) => (c :: s, rest)
  | _, _ => none

/-- Reads a string without escapes from behind its opening apostrophe. -/
def readLiteral? (cs : List Char) : Option (List Char × List Char) :=
  match cs.dropWhile (· ≠ '\x27') with
  | _ :: rest => some (cs.takeWhile (· ≠ '\x27'), rest)
  | [] => none

/-- Reads a string of one of the two sorts. -/
def readString? : List Char → Option (String × List Char)
  | '"' :: cs => (readBasic? cs.length cs).map fun (s, rest) => (String.ofList s, rest)
  | '\x27' :: cs => (readLiteral? cs).map fun (s, rest) => (String.ofList s, rest)
  | _ => none

/-! ## Keys -/

/-- A character of a bare key. -/
def isBare (c : Char) : Bool := c.isAlphanum || c == '_' || c == '-'

/-- Reads one part of a key. -/
def readPart? (cs : List Char) : Option (String × List Char) :=
  match readString? cs with
  | some r => some r
  | none =>
    let name := cs.takeWhile isBare
    if name = [] then none else some (String.ofList name, cs.dropWhile isBare)

/-- Reads a key: parts between points. -/
def readKey? : (budget : Nat) → List Char → Option (List String × List Char)
  | 0, _ => none
  | budget + 1, cs =>
    (readPart? (skipSpace cs)).bind fun (part, rest) =>
      match skipSpace rest with
      | '.' :: rest => (readKey? budget rest).map fun (parts, rest) => (part :: parts, rest)
      | rest => some ([part], rest)

/-! ## Values -/

/-- The digits of an integer, which may have single underscores between them. -/
def digits? (cs : List Char) : Option (List Char) :=
  let parts := Text.pieces (· == '_') cs
  let ds := parts.flatten
  let isPlain := ds.length == 1 || ds.head? != some '0'
  if parts.all (fun p => !p.isEmpty) && ds.all Char.isDigit && isPlain then some ds else none

/-- Reads an integer of 64 bits. -/
def readInteger? (cs : List Char) : Option Int :=
  let (minus, cs) := match cs with
    | '-' :: cs => (true, cs)
    | '+' :: cs => (false, cs)
    | cs => (false, cs)
  (digits? cs).bind fun ds =>
    let n : Nat := ds.foldl (fun v d => v * 10 + (d.toNat - 48)) 0
    if minus then if n ≤ UInt64.size / 2 then some (-(n : Int)) else none
    else if n < UInt64.size / 2 then some n else none

/-- Reads a value, and gives what follows it in the line. -/
def readValue? (origin : Option String) (cs : List Char) : Option (Tree × List Char) :=
  match readString? cs with
  | some (s, rest) => some (.text origin s, rest)
  | none =>
    let word := cs.takeWhile fun c => !isSpace c && c != '#' && c != '\r'
    let rest := cs.drop word.length
    if word = "true".toList then some (.bool origin true, rest)
    else if word = "false".toList then some (.bool origin false, rest)
    else (readInteger? word).map fun n => (.int origin n, rest)

/-! ## Lines -/

/-- What is read of a document: its tree, the table that lines go to, and the headers seen. -/
structure Document where
  root : Tree
  place : List String
  headers : List (List String)

/-- Adds a value under a key that is not yet there. -/
def insert? (origin : Option String) (value : Tree) : List String → Tree → Option Tree
  | [], _ => none
  | [name], t => match t, t.child? name with
    | .table .., none => some (t.put name value)
    | _, _ => none
  | name :: names, t => match t with
    | .table .. =>
      (insert? origin value names ((t.child? name).getD (.table origin []))).map fun u =>
        t.put name u
    | _ => none

/-- Makes sure that there is a table under a key. -/
def ensureTable? (origin : Option String) : List String → Tree → Option Tree
  | [], t => match t with
    | .table .. => some t
    | _ => none
  | name :: names, t => match t with
    | .table .. =>
      (ensureTable? origin names ((t.child? name).getD (.table origin []))).map fun u =>
        t.put name u
    | _ => none

/-- Reads the header of a table from behind its opening bracket. -/
def readHeader? (origin : Option String) (d : Document) (cs : List Char) : Option Document :=
  (readKey? cs.length cs).bind fun (key, rest) =>
    match rest with
    | ']' :: rest =>
      if endsLine rest ∧ key ∉ d.headers then
        (ensureTable? origin key d.root).map fun root => ⟨root, key, key :: d.headers⟩
      else none
    | _ => none

/-- Reads a key and its value. -/
def readPair? (origin : Option String) (d : Document) (cs : List Char) : Option Document :=
  (readKey? cs.length cs).bind fun (key, rest) =>
    match rest with
    | '=' :: rest =>
      (readValue? origin (skipSpace rest)).bind fun (value, rest) =>
        if endsLine rest then
          (insert? origin value (d.place ++ key) d.root).map fun root => { d with root := root }
        else none
    | _ => none

/-- Reads one line. -/
def readLine? (origin : Option String) (d : Document) (cs : List Char) : Option Document :=
  if endsLine cs then some d
  else
    match skipSpace cs with
    | '[' :: cs => readHeader? origin d cs
    | cs => readPair? origin d cs

/-- Reads the lines from a given one on. -/
def readLines (origin : Option String) (line : Nat) (d : Document) :
    List (List Char) → Except Fault Tree
  | [] => .ok d.root
  | cs :: rest =>
    match readLine? origin d cs with
    | some d => readLines origin (line + 1) d rest
    | none => .error ⟨line⟩

/-- Reads a whole text from a given file. -/
def read (origin : Option String) (s : String) : Except Fault Tree :=
  readLines origin 1 ⟨.table origin [], [], []⟩ (Text.pieces (· == '\n') s.toList)

end BridgeWatch.Settings.Toml
