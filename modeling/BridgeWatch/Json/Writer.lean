import BridgeWatch.Json.Basic
import BridgeWatch.Text.Hex

/-!
# Writing JSON

`Json.compact` writes a value on one line without blanks. Inside strings, the quotation mark, the
backslash and the control characters are escaped; every other character stands for itself.
-/

namespace BridgeWatch.Json

/-- A character as it is written inside a string. -/
def escaped (c : Char) : List Char :=
  let n := c.toNat
  if c = '"' then ['\\', '"']
  else if c = '\\' then ['\\', '\\']
  else if c = '\n' then ['\\', 'n']
  else if c = '\r' then ['\\', 'r']
  else if c = '\t' then ['\\', 't']
  else if n = 8 then ['\\', 'b']
  else if n = 12 then ['\\', 'f']
  else if n < 0x20 then '\\' :: 'u' :: Text.Hex.fixed 4 n
  else [c]

/-- A text between quotation marks. -/
def quoted (s : String) : List Char := '"' :: (s.toList.flatMap escaped ++ ['"'])

/-- Texts joined by commas. -/
def commaSeparated : List (List Char) → List Char
  | [] => []
  | [w] => w
  | w :: ws => w ++ ',' :: commaSeparated ws

mutual

/-- The characters of a written value. -/
def write : Json → List Char
  | .null => "null".toList
  | .bool true => "true".toList
  | .bool false => "false".toList
  | .int n => (Text.signedDecimal n).toList
  | .real x => x.text.toList
  | .str s => quoted s
  | .arr xs => '[' :: (commaSeparated (writeElements xs) ++ [']'])
  | .obj ms => '\x7b' :: (commaSeparated (writeMembers ms) ++ ['\x7d'])

/-- The written elements of an array. -/
def writeElements : List Json → List (List Char)
  | [] => []
  | x :: xs => write x :: writeElements xs

/-- The written members of an object. -/
def writeMembers : List (String × Json) → List (List Char)
  | [] => []
  | (name, x) :: ms => (quoted name ++ ':' :: write x) :: writeMembers ms

end

/-- A value on one line. -/
def compact (j : Json) : String := String.ofList (write j)

end BridgeWatch.Json
