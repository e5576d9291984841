import BridgeWatch.Json.Basic
import BridgeWatch.Text.Quoted

/-!
# Showing JSON values

`Json.shown` shows a value to an operator: every part under the name of what it is, every text
quoted (`Text.quoted`).

A value that is kept for being shown is *collected* first (`Json.collected`): each of its objects
holds one member a name, the last of those with that name, in the order of the names.
-/

namespace BridgeWatch.Json

/-! ## Collecting -/

/-- Members in the order of their names and one more in front of them, unless one of them has its
name. -/
def place (name : String) (j : Json) : List (String × Json) → List (String × Json)
  | [] => [(name, j)]
  | m :: ms =>
    if name < m.1 then (name, j) :: m :: ms
    else if name = m.1 then m :: ms
    else m :: place name j ms

mutual

/-- A value in which each object has one member a name, in the order of the names. -/
def collected : Json → Json
  | .arr xs => .arr (collectedElements xs)
  | .obj ms => .obj (collectedMembers ms)
  | j => j

/-- The elements of an array, each collected. -/
def collectedElements : List Json → List Json
  | [] => []
  | x :: xs => collected x :: collectedElements xs

/-- The last member of each name, in the order of the names. -/
def collectedMembers : List (String × Json) → List (String × Json)
  | [] => []
  | (name, x) :: ms => place name (collected x) (collectedMembers ms)

end

/-! ## Showing -/

/-- Texts with a comma and a space between them. -/
def listed : List (List Char) → List Char
  | [] => []
  | [w] => w
  | w :: ws => w ++ ',' :: ' ' :: listed ws

mutual

/-- A value as it is shown. -/
def shown : Json → List Char
  | .null => "Null".toList
  | .bool true => "Bool(true)".toList
  | .bool false => "Bool(false)".toList
  | .int n => "Number(".toList ++ (Text.signedDecimal n).toList ++ [')']
  | .real x => "Number(".toList ++ x.text.toList ++ [')']
  | .str s => "String(".toList ++ (Text.quoted s).toList ++ [')']
  | .arr xs => "Array [".toList ++ listed (shownElements xs) ++ [']']
  | .obj ms => "Object \x7b".toList ++ listed (shownMembers ms) ++ ['\x7d']

/-- The elements of an array as they are shown. -/
def shownElements : List Json → List (List Char)
  | [] => []
  | x :: xs => shown x :: shownElements xs

/-- The members of an object as they are shown. -/
def shownMembers : List (String × Json) → List (List Char)
  | [] => []
  | (name, x) :: ms => ((Text.quoted name).toList ++ ':' :: ' ' :: shown x) :: shownMembers ms

end

/-! ## Texts in a value -/

mutual

/-- The texts in a value, the names of members among them. -/
def texts : Json → List String
  | .str s => [s]
  | .arr xs => textsOfElements xs
  | .obj ms => textsOfMembers ms
  | _ => []

/-- The texts in the elements of an array. -/
def textsOfElements : List Json → List String
  | [] => []
  | x :: xs => texts x ++ textsOfElements xs

/-- The names of members and the texts in them. -/
def textsOfMembers : List (String × Json) → List String
  | [] => []
  | (name, x) :: ms => name :: (texts x ++ textsOfMembers ms)

end

end BridgeWatch.Json
