/-!
# Similar texts

How much two texts have in common, as a number between nought and one (`similarity`). Characters of
the two texts are paired if they are equal and stand close to each other. The more of both texts is
paired, and the fewer pairs are out of order, the more similar the texts are.
-/

namespace BridgeWatch.Text

/-- How far from its own place a character may be paired. -/
def pairingRange (a b : List Char) : Nat := max a.length b.length / 2 - 1

/-- Takes the first free place that holds the character and is close enough to the place `i`. The
places are numbered from `j` on, and each says whether it is taken. -/
def takePlace (range i : Nat) (c : Char) : (j : Nat) → List (Char × Bool) →
    Option (List (Char × Bool))
  | _, [] => none
  | j, (d, isTaken) :: rest =>
    if !isTaken ∧ d = c ∧ i ≤ j + range ∧ j ≤ i + range then some ((d, true) :: rest)
    else (takePlace range i c (j + 1) rest).map ((d, isTaken) :: ·)

/-- Pairs the characters from the place `i` on, and gives those that found a place. -/
def pairFrom (range : Nat) : (i : Nat) → List Char → List (Char × Bool) →
    List Char × List (Char × Bool)
  | _, [], places => ([], places)
  | i, c :: cs, places =>
    match takePlace range i c 0 places with
    | none => pairFrom range (i + 1) cs places
    | some places =>
      let (paired, places) := pairFrom range (i + 1) cs places
      (c :: paired, places)

/-- The paired characters of two texts, in the order of each. -/
def paired (a b : List Char) : List Char × List Char :=
  let (inA, places) := pairFrom (pairingRange a b) 0 a (b.map fun c => (c, false))
  (inA, (places.filter (·.2)).map (·.1))

/-- How much two texts have in common. -/
def similarity (a b : List Char) : Float :=
  let (inA, inB) := paired a b
  let pairs := inA.length
  if a = [] ∧ b = [] then 1
  else if pairs = 0 then 0
  else
    let swapped := ((inA.zip inB).filter fun p => p.1 != p.2).length / 2
    let share := fun (whole : Nat) => pairs.toFloat / whole.toFloat
    (share a.length + share b.length + (pairs - swapped).toFloat / pairs.toFloat) / 3

end BridgeWatch.Text
