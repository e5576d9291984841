/-!
# White space

The Unicode property `White_Space` (25 code points) and the two operations that rest on it: taking
the white space off both ends of a text (`trim`) and cutting a text into its words (`words`).

The separators U+001C to U+001F and the zero-width characters U+200B, U+FEFF and U+180E are not
white space.
-/

namespace BridgeWatch.Text

/-- The property `White_Space`. -/
def isBlank (c : Char) : Bool :=
  let n := c.toNat
  (9 ≤ n && n ≤ 13) || n == 0x20 || n == 0x85 || n == 0xA0 || n == 0x1680 ||
    (0x2000 ≤ n && n ≤ 0x200A) || n == 0x2028 || n == 0x2029 || n == 0x202F || n == 0x205F ||
    n == 0x3000

/-- A text without the white space it starts with. -/
def trimStart (cs : List Char) : List Char := cs.dropWhile isBlank

/-- A text without the white space it ends with. -/
def trimEnd (cs : List Char) : List Char := (cs.reverse.dropWhile isBlank).reverse

/-- A text without the white space at both of its ends. -/
def trim (cs : List Char) : List Char := trimEnd (trimStart cs)

/-- The text holds nothing but white space. -/
def isAllBlank (cs : List Char) : Bool := cs.all isBlank

/-- The pieces of a text between the characters that satisfy `p`; there is one more of them than
there are such characters. -/
def pieces (p : Char → Bool) : List Char → List (List Char)
  | [] => [[]]
  | c :: cs =>
    match pieces p cs with
    | [] => [[c]]
    | w :: ws => if p c then [] :: w :: ws else (c :: w) :: ws

/-- The words of a text: its longest runs of characters that are not white space. -/
def words (cs : List Char) : List (List Char) :=
  (pieces isBlank cs).filter fun w => !w.isEmpty

/-- `trim` on strings. -/
def trimmed (s : String) : String := String.ofList (trim s.toList)

theorem trimStart_cons_of_not_blank {c : Char} (h : isBlank c = false) (cs : List Char) :
    trimStart (c :: cs) = c :: cs := by
  simp [trimStart, h]

theorem trim_nil : trim [] = [] := rfl

/-- Every text has a piece. -/
theorem pieces_ne_nil (p : Char → Bool) (cs : List Char) : pieces p cs ≠ [] := by
  cases cs with
  | nil => simp [pieces]
  | cons c cs =>
    simp only [pieces]
    split
    · simp
    · split <;> simp

end BridgeWatch.Text
