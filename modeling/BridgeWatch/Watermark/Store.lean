import BridgeWatch.Assoc
import BridgeWatch.Fault

/-!
# Watermarks

The watermark of a chain is the height of the last block that is done with. The store has at most
one for each chain. A watermark is set when a chain is initialized, moves forward when a window is
applied (`advance`, which refuses to move it back), and is overridden by an operator in either
direction (`resync`).
-/

namespace BridgeWatch

/-- The watermarks of all chains. -/
structure WatermarkStore where
  heights : List (ChainId × UInt64)
  deriving DecidableEq, Repr, Inhabited

namespace WatermarkStore

/-- No chain has a watermark. -/
def empty : WatermarkStore := ⟨[]⟩

/-- The watermark of a chain. -/
def get? (s : WatermarkStore) (chain : ChainId) : Option UInt64 := Assoc.find? chain s.heights

/-- Sets the watermark of a chain. -/
def set (s : WatermarkStore) (chain : ChainId) (height : UInt64) : WatermarkStore :=
  ⟨Assoc.put chain height s.heights⟩

/-- Moves the watermark of a chain forward, or sets it if there is none. -/
def advance (s : WatermarkStore) (chain : ChainId) (height : UInt64) :
    Except Fault WatermarkStore :=
  match s.get? chain with
  | some current =>
    if height < current then .error (.regression chain current height) else .ok (s.set chain height)
  | none => .ok (s.set chain height)

/-- Sets the watermark of a chain to any height; gives the previous one. -/
def resync (s : WatermarkStore) (chain : ChainId) (height : UInt64) :
    Option UInt64 × WatermarkStore :=
  (s.get? chain, s.set chain height)

/-- All watermarks, ordered by chain. -/
def snapshot (s : WatermarkStore) : List (ChainId × UInt64) :=
  s.heights.mergeSort fun a b => !b.1.before a.1

@[simp]
theorem get?_set_self (s : WatermarkStore) (chain : ChainId) (height : UInt64) :
    (s.set chain height).get? chain = some height := by
  simp [get?, set]

theorem get?_set_of_ne (s : WatermarkStore) {chain other : ChainId} (h : other ≠ chain)
    (height : UInt64) : (s.set chain height).get? other = s.get? other := by
  simp [get?, set, Assoc.find?_put_of_ne h]

end WatermarkStore

end BridgeWatch
