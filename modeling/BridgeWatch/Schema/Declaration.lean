import BridgeWatch.Text.Blank

/-!
# Lists of declarations

The text between the parentheses of an event signature: declarations such as `uint256 amount`,
separated by commas. Commas inside parentheses belong to a tuple, and blanks inside parentheses mean
nothing. `splitTopLevel` and `compact` count open parentheses in the same way: a parenthesis closed
that was not opened leaves the count at zero.
-/

namespace BridgeWatch.Declaration

/-- The number of open parentheses behind a character. -/
def depthAfter (depth : Nat) (c : Char) : Nat :=
  if c = '(' then depth + 1 else if c = ')' then depth - 1 else depth

/-- Puts a character in front of the first of some pieces. -/
def consFirst (c : Char) : List (List Char) → List (List Char)
  | [] => [[c]]
  | w :: ws => (c :: w) :: ws

/-- The pieces of a text between the commas at which no parenthesis is open, from a place at which
`depth` are. -/
def splitFrom (depth : Nat) : List Char → List (List Char)
  | [] => [[]]
  | c :: cs =>
    if c = ',' ∧ depth = 0 then [] :: splitFrom depth cs
    else consFirst c (splitFrom (depthAfter depth c) cs)

/-- The declarations of a list, each without the white space around it. A list of nothing but white
space has none. -/
def splitTopLevel (cs : List Char) : List (List Char) :=
  if Text.isAllBlank cs then [] else (splitFrom 0 cs).map Text.trim

/-- A declaration without the white space inside its parentheses, from a place at which `depth`
parentheses are open. -/
def compactFrom (depth : Nat) : List Char → List Char
  | [] => []
  | c :: cs =>
    let rest := compactFrom (depthAfter depth c) cs
    if Text.isBlank c ∧ depth ≠ 0 then rest else c :: rest

/-- A declaration without the white space inside its parentheses. -/
def compact (cs : List Char) : List Char := compactFrom 0 cs

end BridgeWatch.Declaration
