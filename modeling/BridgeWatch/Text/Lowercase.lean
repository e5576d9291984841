import BridgeWatch.Text.CaseTable

/-!
# Lowercase forms

`lower` is the full Unicode lowercase mapping of a text. A letter has one lowercase form, with two
exceptions: U+0130 becomes two code points, and a capital sigma becomes a final sigma at the end of
a word. A word ends where, skipping what case ignores, a cased letter comes before and none comes
after.
-/

namespace BridgeWatch.Text

/-- The lowercase form of a letter on its own. -/
def lowerLetter (c : Char) : List Char :=
  let n := c.toNat
  if n < 0x80 then
    [if 65 ≤ n && n ≤ 90 then Char.ofNat (n + 32) else c]
  else if n == 0x130 then
    ['i', '\u0307']
  else
    match lowerRuns.find? (·.covers n) with
    | some r => [Char.ofNat (r.apply n)]
    | none => [c]

/-- The property `Cased`. -/
def isCased (c : Char) : Bool :=
  let n := c.toNat
  if n < 0x80 then (65 ≤ n && n ≤ 90) || (97 ≤ n && n ≤ 122) else inRanges casedRanges n

/-- The property `Case_Ignorable`; below U+0080 it holds of the apostrophe, the full stop, the
colon, the circumflex and the grave accent. -/
def isCaseIgnorable (c : Char) : Bool :=
  let n := c.toNat
  if n < 0x80 then n == 0x27 || n == 0x2E || n == 0x3A || n == 0x5E || n == 0x60
  else inRanges ignorableRanges n

/-- The first character that case does not ignore is cased. -/
def casedAhead : List Char → Bool
  | [] => false
  | c :: cs => if isCaseIgnorable c then casedAhead cs else isCased c

/-- The lowercase form of a letter between what precedes it (`before`: a cased letter, skipping what
case ignores) and what follows it. -/
def lowerWithin (before : Bool) (c : Char) (after : List Char) : List Char :=
  if c = '\u03A3' then
    [if before && !casedAhead after then '\u03C2' else '\u03C3']
  else
    lowerLetter c

/-- Whether a cased letter precedes the next position, once `c` is read. -/
def casedBehind (before : Bool) (c : Char) : Bool :=
  if isCaseIgnorable c then before else isCased c

/-- The lowercase form of the rest of a text. -/
def lowerFrom (before : Bool) : List Char → List Char
  | [] => []
  | c :: cs => lowerWithin before c cs ++ lowerFrom (casedBehind before c) cs

/-- The lowercase form of a text. -/
def lower (cs : List Char) : List Char := lowerFrom false cs

/-- `lower` on strings. -/
def lowered (s : String) : String := String.ofList (lower s.toList)

end BridgeWatch.Text
