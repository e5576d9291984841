/-!
# Byte strings

Byte strings are lists of bytes. `natural` reads one as a big-endian number and `ofNatural` writes
a number in a given number of bytes; `natural_ofNatural` says that nothing is lost if it fits.
-/

namespace BridgeWatch

/-- A byte string. -/
abbrev Bytes := List UInt8

namespace Bytes

/-- The big-endian number that continues `value` by the given bytes. -/
def naturalFrom (value : Nat) (bs : Bytes) : Nat := bs.foldl (fun v b => v * 256 + b.toNat) value

/-- A byte string as a big-endian number. -/
def natural (bs : Bytes) : Nat := naturalFrom 0 bs

/-- The last `size` bytes of a number, most significant byte first. -/
def ofNatural : (size : Nat) → Nat → Bytes
  | 0, _ => []
  | size + 1, n => ofNatural size (n / 256) ++ [UInt8.ofNat (n % 256)]

@[simp]
theorem length_ofNatural (size n : Nat) : (ofNatural size n).length = size := by
  induction size generalizing n with
  | zero => rfl
  | succ size ih => simp [ofNatural, ih]

theorem natural_concat (bs : Bytes) (b : UInt8) :
    natural (bs ++ [b]) = natural bs * 256 + b.toNat := by
  simp [natural, naturalFrom]

theorem natural_ofNatural {size n : Nat} (h : n < Nat.pow 256 size) :
    natural (ofNatural size n) = n := by
  induction size generalizing n with
  | zero =>
    have hn : n = 0 := Nat.lt_one_iff.1 h
    simp [hn, ofNatural, natural, naturalFrom]
  | succ size ih =>
    have hn : n / 256 < Nat.pow 256 size := by
      have h : n < Nat.pow 256 size * 256 := h
      exact Nat.div_lt_of_lt_mul (by omega)
    rw [ofNatural, natural_concat, ih hn]
    simp
    omega

end Bytes

end BridgeWatch
