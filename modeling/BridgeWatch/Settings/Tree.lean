import BridgeWatch.Json.Basic

/-!
# Trees of settings

What a source of settings says, before it is known what the settings mean: scalars, lists and tables
of names. A part that comes from a source knows the source (`origin`); a table that was made while
sources were laid over each other knows none.

`Tree.assign` lays one tree over another: tables are merged name by name, anything else replaces
what was there. `Tree.assignAt` does so at a place that a path expression names, such as
`chains.goerli` or `list[2].name`, and makes the tables and lists that lead there.
-/

namespace BridgeWatch.Settings

/-- A tree of settings. -/
inductive Tree
  | nothing (origin : Option String)
  | bool (origin : Option String) (b : Bool)
  | int (origin : Option String) (n : Int)
  | real (origin : Option String) (x : Binary64)
  | text (origin : Option String) (s : String)
  | list (origin : Option String) (items : List Tree)
  | table (origin : Option String) (entries : List (String × Tree))
  deriving Inhabited

namespace Tree

/-- A table without names. -/
def empty : Tree := .table none []

/-- Where a part comes from. -/
def origin : Tree → Option String
  | nothing o | bool o _ | int o _ | real o _ | text o _ | list o _ | table o _ => o

/-- Gives a name a value in a list of names and values. -/
def putEntry (name : String) (value : Tree) : List (String × Tree) → List (String × Tree)
  | [] => [(name, value)]
  | (n, t) :: rest => if n = name then (n, value) :: rest else (n, t) :: putEntry name value rest

/-- Gives a name a value; what is no table becomes one. -/
def put (t : Tree) (name : String) (value : Tree) : Tree :=
  match t with
  | table o entries => table o (putEntry name value entries)
  | _ => table none [(name, value)]

/-- The value of a name. -/
def child? (t : Tree) (name : String) : Option Tree :=
  match t with
  | table _ entries => (entries.find? fun e => e.1 == name).map (·.2)
  | _ => none

/-- The items of a list; anything else has none. -/
def items : Tree → List Tree
  | list _ ts => ts
  | _ => []

mutual

/-- Lays a tree over what a name stands for. -/
def assign (root : Tree) (name : String) (value : Tree) : Tree :=
  match value with
  | table _ entries => root.put name (assignAll ((root.child? name).getD empty) entries)
  | leaf => root.put name leaf

/-- Lays the values of several names over a tree. -/
def assignAll (root : Tree) (entries : List (String × Tree)) : Tree :=
  match entries with
  | [] => root
  | (name, value) :: rest => assignAll (assign root name value) rest

end

/-! ## Path expressions -/

/-- A step of a path behind its first name. -/
inductive Step
  | name (s : String)
  /-- The position in a list; a negative one counts from its end. -/
  | index (n : Int)
  deriving DecidableEq, Repr

/-- The position that an index means in a list of a given length. -/
def position (length : Nat) : Int → Nat
  | .ofNat n => n
  | .negSucc n => length - (n + 1)

/-- A list in which a position holds a value; positions missing before it hold nothing. -/
def setAt (items : List Tree) (index : Int) (f : Tree → Tree) : List Tree :=
  let n := position items.length index
  let items := items ++ List.replicate (n + 1 - items.length) (nothing none)
  items.modify n f

/-- Lays a value over the place that the steps of a path lead to. -/
def descend (value : Tree) : List Step → Tree → Tree
  | [], _ => value
  | [.name s], t => t.assign s value
  | .name s :: rest, t => t.put s (descend value rest ((t.child? s).getD (nothing none)))
  | .index n :: rest, t =>
    let o := match t with
      | list o _ => o
      | _ => none
    list o (setAt t.items n (descend value rest))

/-- Lays a value over the place that a path leads to. -/
def assignAt (root : Tree) (first : String) (steps : List Step) (value : Tree) : Tree :=
  descend value (.name first :: steps) root

/-- A character of a name in a path. -/
def isPathChar (c : Char) : Bool := c.isAlphanum || c == ' ' || c == '_' || c == '-'

/-- A blank around an index. -/
def isIndexBlank (c : Char) : Bool := c == ' ' || c == '\t' || c == '\r' || c == '\n'

/-- The longest index that fits in 63 bits. -/
def maxIndex : Nat := UInt64.size / 2 - 1

/-- Reads an index from behind its opening bracket. -/
def readIndex? (cs : List Char) : Option (Int × List Char) :=
  let cs := cs.dropWhile isIndexBlank
  let (minus, cs) := match cs with
    | '-' :: cs => (true, cs)
    | cs => (false, cs)
  let ds := cs.takeWhile Char.isDigit
  let n := ds.foldl (fun v d => v * 10 + (d.toNat - 48)) 0
  match (cs.dropWhile Char.isDigit).dropWhile isIndexBlank with
  | ']' :: rest =>
    if ds = [] ∨ maxIndex < n then none else some (if minus then -(n : Int) else n, rest)
  | _ => none

/-- Reads the steps of a path. -/
def readSteps? : (budget : Nat) → List Char → Option (List Step)
  | _, [] => some []
  | 0, _ => none
  | budget + 1, '.' :: cs =>
    let name := cs.takeWhile isPathChar
    if name = [] then none
    else (readSteps? budget (cs.dropWhile isPathChar)).map (.name (String.ofList name) :: ·)
  | budget + 1, '[' :: cs =>
    (readIndex? cs).bind fun (n, rest) => (readSteps? budget rest).map (.index n :: ·)
  | _, _ => none

/-- Reads a path: its first name and the steps behind it. -/
def readPath? (s : String) : Option (String × List Step) :=
  let cs := s.toList
  let first := cs.takeWhile isPathChar
  if first = [] then none
  else (readSteps? cs.length (cs.dropWhile isPathChar)).map fun steps =>
    (String.ofList first, steps)

/-- Lays a value over the place that a text names: the one its path leads to, or if it is no path
the name that it is. -/
def assignNamed (root : Tree) (name : String) (value : Tree) : Tree :=
  match readPath? name with
  | some (first, steps) => root.assignAt first steps value
  | none => root.assign name value

/-- Lays the named parts of a source over a tree. -/
def overlay (root source : Tree) : Tree :=
  match source with
  | table _ entries => entries.foldl (fun t e => t.assignNamed e.1 e.2) root
  | _ => root

/-! ## Sources -/

mutual

/-- A JSON value from a given file. Numbers that do not fit in 64 bits with a sign are doubles. -/
def ofJson (origin : Option String) (j : Json) : Tree :=
  match j with
  | .null => nothing origin
  | .bool b => bool origin b
  | .int n =>
    if n < UInt64.size / 2 then int origin n
    else real origin (Binary64.ofNat n.toNat)
  | .real x => real origin x
  | .str s => text origin s
  | .arr xs => list origin (ofElements origin xs)
  | .obj ms => table origin (ofMembers origin ms)

/-- The elements of an array. -/
def ofElements (origin : Option String) (xs : List Json) : List Tree :=
  match xs with
  | [] => []
  | x :: rest => ofJson origin x :: ofElements origin rest

/-- The members of an object; of two members of one name the last counts. -/
def ofMembers (origin : Option String) (ms : List (String × Json)) : List (String × Tree) :=
  match ms with
  | [] => []
  | (name, x) :: rest =>
    if rest.any (·.1 == name) then ofMembers origin rest
    else (name, ofJson origin x) :: ofMembers origin rest

end

end Tree

end BridgeWatch.Settings
