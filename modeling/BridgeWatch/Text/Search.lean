/-!
# Finding a text inside another

`occursIn needle text` says whether `needle` is a contiguous part of `text`, and
`dropStart? start text` takes a given beginning off a text. `occursIn_iff` ties the search to the
list relation "is an infix".
-/

namespace BridgeWatch.Text

/-- `needle` occurs in the text as a contiguous part. -/
def occursIn (needle : List Char) : List Char → Bool
  | [] => needle.isEmpty
  | c :: cs => needle.isPrefixOf (c :: cs) || occursIn needle cs

/-- What follows `start` in a text that begins with it. -/
def dropStart? : (start text : List Char) → Option (List Char)
  | [], cs => some cs
  | _ :: _, [] => none
  | a :: start, c :: cs => if a = c then dropStart? start cs else none

theorem dropStart?_eq_some_iff {start text rest : List Char} :
    dropStart? start text = some rest ↔ text = start ++ rest := by
  induction start generalizing text with
  | nil => simp [dropStart?, eq_comm]
  | cons a start ih =>
    cases text with
    | nil => simp [dropStart?]
    | cons c cs =>
      by_cases h : a = c
      · simp [dropStart?, h, ih]
      · simp [dropStart?, h, Ne.symm h]

theorem dropStart?_eq_none_iff {start text : List Char} :
    dropStart? start text = none ↔ ¬start <+: text := by
  rw [← Option.not_isSome_iff_eq_none, Option.isSome_iff_exists]
  simp only [dropStart?_eq_some_iff]
  exact not_congr ⟨fun ⟨rest, h⟩ => ⟨rest, h.symm⟩, fun ⟨rest, h⟩ => ⟨rest, h.symm⟩⟩

theorem occursIn_iff {needle text : List Char} :
    occursIn needle text = true ↔ needle <:+: text := by
  induction text with
  | nil => simp [occursIn]
  | cons c cs ih =>
    rw [occursIn, Bool.or_eq_true, ih, List.isPrefixOf_iff_prefix, List.infix_cons_iff]

end BridgeWatch.Text
