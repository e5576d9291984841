import BridgeWatch.Bytes

/-!
# Hexadecimal text

Written hex is lowercase: `ofBytes` gives two digits a byte, `fixed` a given number of digits,
`minimal` no leading zeros. The readers take either case. `toBytes?_ofBytes` says that bytes can be
read back.
-/

namespace BridgeWatch.Text.Hex

/-- The lowercase digit of a number below 16. -/
def digit (n : Nat) : Char := Char.ofNat (if n < 10 then 48 + n else 87 + n)

/-- The value of a hexadecimal digit of either case. -/
def digit? (c : Char) : Option Nat :=
  let n := c.toNat
  if 48 ≤ n ∧ n ≤ 57 then some (n - 48)
  else if 97 ≤ n ∧ n ≤ 102 then some (n - 87)
  else if 65 ≤ n ∧ n ≤ 70 then some (n - 55)
  else none

/-- Two digits for each byte. -/
def ofBytes : Bytes → List Char
  | [] => []
  | b :: bs => digit (b.toNat / 16) :: digit (b.toNat % 16) :: ofBytes bs

/-- The last `count` digits of a number. -/
def fixed : (count : Nat) → Nat → List Char
  | 0, _ => []
  | count + 1, n => fixed count (n / 16) ++ [digit (n % 16)]

/-- The digits of a number without leading zeros. -/
def minimal (n : Nat) : List Char := Nat.toDigits 16 n

/-- The number that continues `value` by the given digits. -/
def toNatFrom? (value : Nat) : List Char → Option Nat
  | [] => some value
  | c :: cs => (digit? c).bind fun d => toNatFrom? (value * 16 + d) cs

/-- A text of digits as a number; the empty text is zero. -/
def toNat? (cs : List Char) : Option Nat := toNatFrom? 0 cs

/-- A text of digits, two for each byte. -/
def toBytes? : List Char → Option Bytes
  | [] => some []
  | [_] => none
  | a :: b :: cs =>
    (digit? a).bind fun x => (digit? b).bind fun y =>
      (toBytes? cs).map (UInt8.ofNat (x * 16 + y) :: ·)

/-- A text without the `0x` it may start with. -/
def dropMark : List Char → List Char
  | '0' :: 'x' :: cs => cs
  | cs => cs

/-- `0x` and the given digits. -/
def marked (digits : List Char) : String := String.ofList ('0' :: 'x' :: digits)

/-- Bytes as `0x` and lowercase digits. -/
def prefixed (bs : Bytes) : String := marked (ofBytes bs)

theorem digit?_digit {n : Nat} (h : n < 16) : digit? (digit n) = some n := by
  have : ∀ n : Fin 16, digit? (digit n) = some n.val := by decide
  exact this ⟨n, h⟩

theorem toBytes?_ofBytes (bs : Bytes) : toBytes? (ofBytes bs) = some bs := by
  induction bs with
  | nil => rfl
  | cons b bs ih =>
    have hb := b.toNat_lt
    rw [ofBytes, toBytes?, digit?_digit (by omega), digit?_digit (by omega)]
    rw [Option.bind_some, Option.bind_some, ih, Nat.div_add_mod']
    simp

@[simp]
theorem length_fixed (count n : Nat) : (fixed count n).length = count := by
  induction count generalizing n with
  | zero => rfl
  | succ count ih => simp [fixed, ih]

end BridgeWatch.Text.Hex
