import BridgeWatch.Text.Blank
import BridgeWatch.Url.Escape

/-!
# Paths

The path of a URL is a list of segments, each written behind a slash. `Path.extend` appends the
segments that a text gives to those already there: a segment `.` stays where it is, and a segment
`..` takes the one in front of it away. Either of them at the end leaves an empty segment.
-/

namespace BridgeWatch.Url

/-- The segments of a path, with their escapes. -/
abbrev Path := List (List Char)

namespace Path

/-- A segment in which an escaped point is a point. -/
def plainDots : List Char → List Char
  | '%' :: '2' :: 'e' :: cs | '%' :: '2' :: 'E' :: cs => '.' :: plainDots cs
  | c :: cs => c :: plainDots cs
  | [] => []

/-- A segment that means the place it stands in. -/
def isSingleDot (s : List Char) : Bool := plainDots s == ['.']

/-- A segment that means one place up. -/
def isDoubleDot (s : List Char) : Bool := plainDots s == ['.', '.']

/-- Appends one written segment, of which `isLast` says whether more follow. -/
def push (path : Path) (s : List Char) (isLast : Bool) : Path :=
  if isDoubleDot s then if isLast then path.dropLast ++ [[]] else path.dropLast
  else if isSingleDot s then if isLast then path ++ [[]] else path
  else path ++ [s]

/-- Appends written segments. -/
def pushAll (path : Path) : List (List Char) → Path
  | [] => path
  | [s] => path.push s true
  | s :: ss => pushAll (path.push s false) ss

/-- A character that ends a segment; in a web address the backslash does so, too. -/
def isSlash (web : Bool) (c : Char) : Bool := c == '/' || (web && c == '\\')

/-- Appends the segments of a text. -/
def extend (web : Bool) (path : Path) (cs : List Char) : Path :=
  path.pushAll ((Text.pieces (isSlash web) cs).map (escape inPath))

/-- The text of a path. -/
def text (path : Path) : List Char := path.flatMap fun s => '/' :: s

/-- The path with an empty segment at its end, which makes it a place for further segments. -/
def asDirectory (path : Path) : Path := if path.getLast? = some [] then path else path ++ [[]]

end Path

end BridgeWatch.Url
