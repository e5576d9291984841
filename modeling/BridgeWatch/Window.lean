import BridgeWatch.Text.Decimal

/-!
# Windows of blocks

A window is an inclusive range of block heights scanned in one tick. `Window.next?` is the window
past a watermark: it starts at the block behind the watermark, ends at the head at the latest, and
has at most the given number of blocks, of which zero counts as one. Heights are words of 64 bits;
no step of the computation leaves them.
-/

namespace BridgeWatch

/-- The sum of two words, or the greatest word if the sum is greater. -/
def cappedAdd (a b : UInt64) : UInt64 :=
  if a.toNat + b.toNat < UInt64.size then a + b else UInt64.ofNat (UInt64.size - 1)

/-- An inclusive range of block heights. -/
structure Window where
  first : UInt64
  last : UInt64
  deriving DecidableEq, Repr, Inhabited

namespace Window

/-- The window past a watermark, if the head is past it. -/
def next? (watermark head limit : UInt64) : Option Window :=
  if head ≤ watermark then none
  else some ⟨watermark + 1, min (cappedAdd watermark (max limit 1)) head⟩

/-- The number of blocks in a window. -/
def size (w : Window) : UInt64 := w.last - w.first + 1

/-- The text of a window. -/
def text (w : Window) : String :=
  Text.decimal w.first.toNat ++ "..=" ++ Text.decimal w.last.toNat

end Window

end BridgeWatch
