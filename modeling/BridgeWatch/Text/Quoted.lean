import BridgeWatch.Text.CaseTable
import BridgeWatch.Text.Hex
import BridgeWatch.Text.PrintTable

/-!
# Quoted texts

A text as it is shown to an operator: between quotation marks, on one line, with every character
visible. Quotation marks and backslashes are escaped by a backslash, the usual controls by a
letter, and other characters without a shape of their own by the number of their code point.
-/

namespace BridgeWatch.Text

/-- A character shows nothing of its own: a control, a separator, a mark that joins what is in
front of it, or no assigned character at all. -/
def isShapeless (c : Char) : Bool :=
  let n := c.toNat
  if n < 0x80 then n < 0x20 || n == 0x7F else inRanges shapelessRanges n

/-- A character as it is shown between quotation marks. -/
def shown (c : Char) : List Char :=
  if c = '"' then ['\\', '"']
  else if c = '\\' then ['\\', '\\']
  else if c = '\n' then ['\\', 'n']
  else if c = '\r' then ['\\', 'r']
  else if c = '\t' then ['\\', 't']
  else if c = '\x00' then ['\\', '0']
  else if isShapeless c then ['\\', 'u', '\x7b'] ++ Hex.minimal c.toNat ++ ['\x7d']
  else [c]

/-- A text between quotation marks. -/
def quoted (s : String) : String := String.ofList ('"' :: (s.toList.flatMap shown ++ ['"']))

end BridgeWatch.Text
