import BridgeWatch.Text.Decimal

/-!
# Double-precision numbers

Finite binary64 numbers as exact fractions `± mantissa · 2 ^ exponent`, with the four things the
library needs of them: the nearest one to a fraction (a tie goes to the even mantissa), the nearest
integer (a tie goes away from zero), the shortest decimal text that reads back, and whole numbers
in full.
-/

namespace BridgeWatch

/-- The finite double `± mantissa · 2 ^ exponent`; the mantissa has at most 53 bits. -/
structure Binary64 where
  negative : Bool
  mantissa : Nat
  exponent : Int
  deriving DecidableEq, Repr, Inhabited

namespace Binary64

/-- The sign of a number put before a text. -/
def signed (negative : Bool) (text : String) : String := if negative then "-" ++ text else text

/-- Numerator and denominator of `2 ^ e`. -/
def powerOfTwo (e : Int) : Nat × Nat := (1 <<< e.toNat, 1 <<< (-e).toNat)

/-- Numerator and denominator of `10 ^ e`. -/
def powerOfTen (e : Int) : Nat × Nat := (Nat.pow 10 e.toNat, Nat.pow 10 (-e).toNat)

/-- The quotient rounded to the nearest whole number, a tie to the even one. -/
def divNearestEven (a b : Nat) : Nat :=
  let q := a / b
  let r := a % b
  if b < 2 * r ∨ (b = 2 * r ∧ q % 2 = 1) then q + 1 else q

/-- The quotient rounded to the nearest whole number, a tie upwards. -/
def divNearestUp (a b : Nat) : Nat := (2 * a + b) / (2 * b)

/-- The least mantissa of 53 bits. -/
def leastFull : Nat := 1 <<< 52

/-- The exponent at which the fraction `a / b` has a mantissa of 53 bits, or the least exponent of a
double if that is greater. -/
def scaleOf (a b : Nat) : Int :=
  let e : Int := (a.log2 : Int) - (b.log2 : Int) - 52
  let (p, q) := powerOfTwo e
  max (-1074) (if a * q < leastFull * (b * p) then e - 1 else e)

/-- The double nearest to `± a / b`; none if it would be infinite. -/
def ofRatio? (negative : Bool) (a b : Nat) : Option Binary64 :=
  if a = 0 then some ⟨negative, 0, 0⟩
  else
    let e := scaleOf a b
    let (p, q) := powerOfTwo e
    let m := divNearestEven (a * q) (b * p)
    let (m, e) := if m = 2 * leastFull then (leastFull, e + 1) else (m, e)
    if 971 < e then none else some ⟨negative, m, e⟩

/-- The double nearest to the decimal number `± digits · 10 ^ e`; none if it would be infinite. The
number of digits decides the cases in which the power of ten need not be computed. -/
def ofDecimal? (negative : Bool) (digits : Nat) (e : Int) : Option Binary64 :=
  let size : Int := (Text.decimalDigits digits).length
  if digits = 0 ∨ size + e < -330 then some ⟨negative, 0, 0⟩
  else if 330 < size + e then none
  else
    let (p, q) := powerOfTen e
    ofRatio? negative (digits * p) q

/-- The double nearest to a natural number of moderate size. -/
def ofNat (n : Nat) : Binary64 := (ofRatio? false n 1).getD ⟨false, 0, 0⟩

/-- Numerator and denominator of the absolute value. -/
def ratio (x : Binary64) : Nat × Nat :=
  let (p, q) := powerOfTwo x.exponent
  (x.mantissa * p, q)

/-- The nearest integer, a tie away from zero. -/
def round (x : Binary64) : Int :=
  let (a, b) := x.ratio
  let n := divNearestUp a b
  if x.negative then -(n : Int) else n

/-- The absolute value rounded down to a whole number. -/
def magnitude (x : Binary64) : Nat :=
  let (a, b) := x.ratio
  a / b

/-- The text of `digits · 10 ^ e` without an exponent. -/
def positional (digits : Nat) (e : Int) : String :=
  let ds := Text.decimalDigits digits
  if 0 ≤ e then String.ofList (ds ++ List.replicate e.toNat '0')
  else
    let places := (-e).toNat
    let ds := List.replicate (places + 1 - ds.length) '0' ++ ds
    let cut := ds.length - places
    String.ofList (ds.take cut ++ '.' :: ds.drop cut)

/-- The decimal exponent of the leading digit of `a / b`, which is not zero. -/
def leadingExponent (a b : Nat) : Int :=
  let guess : Int := (Text.decimalDigits a).length - (Text.decimalDigits b).length
  let (p, q) := powerOfTen guess
  if a * q < b * p then guess - 1 else guess

/-- Of the two multiples of `10 ^ e` around the number, the nearest one that reads back. -/
def readsBackAt? (x : Binary64) (e : Int) : Option Nat :=
  let (a, b) := x.ratio
  let (p, q) := powerOfTen e
  let low := a * q / (b * p)
  let near := divNearestUp (a * q) (b * p)
  let far := if near = low then low + 1 else low
  let back := fun n => ofDecimal? x.negative n e == ofRatio? x.negative a b
  if back near then some near else if back far then some far else none

/-- Tries one digit, two digits and so on, `count` times. -/
def shortestFrom (x : Binary64) (top : Int) : (count : Nat) → (digits : Nat) → Nat × Int
  | 0, _ => (x.magnitude, 0)
  | count + 1, digits =>
    let e := top - digits
    match readsBackAt? x e with
    | some n => (n, e)
    | none => shortestFrom x top count (digits + 1)

/-- A decimal number without the zeros at its end. -/
def dropZeros : (count : Nat) → Nat × Int → Nat × Int
  | 0, r => r
  | count + 1, (n, e) => if n ≠ 0 ∧ n % 10 = 0 then dropZeros count (n / 10, e + 1) else (n, e)

/-- The fewest decimal digits that read back as the number, and their exponent. -/
def shortest (x : Binary64) : Nat × Int :=
  if x.mantissa = 0 then (0, 0)
  else
    let (a, b) := x.ratio
    dropZeros 17 (shortestFrom x (leadingExponent a b) 17 0)

/-- The shortest decimal text that reads back, without an exponent. -/
def text (x : Binary64) : String :=
  let (n, e) := x.shortest
  signed x.negative (positional n e)

end Binary64

end BridgeWatch
