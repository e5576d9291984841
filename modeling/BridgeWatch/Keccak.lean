import BridgeWatch.Bytes

/-!
# Keccak-256

The hash function that names bridge events and checks the case of addresses: the sponge over
Keccak-f[1600] with a rate of 136 bytes, the padding `01…80` and a digest of 32 bytes.

The state is five rows of five 64-bit lanes. A round mixes the columns (`State.theta`), turns and
moves the lanes (`State.rhoPi`), mixes each row (`State.chi`) and adds a constant to the first lane.
-/

namespace BridgeWatch.Keccak

/-- Five lanes. -/
structure Row where
  a : UInt64
  b : UInt64
  c : UInt64
  d : UInt64
  e : UInt64
  deriving DecidableEq, Repr

/-- The state of the permutation: five rows. -/
structure State where
  r0 : Row
  r1 : Row
  r2 : Row
  r3 : Row
  r4 : Row
  deriving DecidableEq, Repr

/-- A lane turned to the left by `k` bits. -/
def rotate (x : UInt64) (k : Nat) : UInt64 :=
  (x <<< UInt64.ofNat k) ||| (x >>> UInt64.ofNat ((64 - k) % 64))

/-- The lanewise exclusive or of two rows. -/
def Row.xor (p q : Row) : Row :=
  ⟨p.a ^^^ q.a, p.b ^^^ q.b, p.c ^^^ q.c, p.d ^^^ q.d, p.e ^^^ q.e⟩

/-- What each column is changed by: the parity of its left neighbour and that of its right
neighbour turned by one bit. -/
def Row.spread (c : Row) : Row :=
  ⟨c.e ^^^ rotate c.b 1, c.a ^^^ rotate c.c 1, c.b ^^^ rotate c.d 1, c.c ^^^ rotate c.e 1,
    c.d ^^^ rotate c.a 1⟩

/-- Each lane changed where its right neighbour is clear and the one after it is set. -/
def Row.chi (r : Row) : Row :=
  ⟨r.a ^^^ (~~~r.b &&& r.c), r.b ^^^ (~~~r.c &&& r.d), r.c ^^^ (~~~r.d &&& r.e),
    r.d ^^^ (~~~r.e &&& r.a), r.e ^^^ (~~~r.a &&& r.b)⟩

/-- Mixes the columns. -/
def State.theta (s : State) : State :=
  let d := ((((s.r0.xor s.r1).xor s.r2).xor s.r3).xor s.r4).spread
  ⟨s.r0.xor d, s.r1.xor d, s.r2.xor d, s.r3.xor d, s.r4.xor d⟩

/-- Turns every lane by its own distance and moves it to its new place. -/
def State.rhoPi (s : State) : State :=
  ⟨⟨rotate s.r0.a 0, rotate s.r1.b 44, rotate s.r2.c 43,
      rotate s.r3.d 21, rotate s.r4.e 14⟩,
    ⟨rotate s.r0.d 28, rotate s.r1.e 20, rotate s.r2.a 3,
      rotate s.r3.b 45, rotate s.r4.c 61⟩,
    ⟨rotate s.r0.b 1, rotate s.r1.c 6, rotate s.r2.d 25,
      rotate s.r3.e 8, rotate s.r4.a 18⟩,
    ⟨rotate s.r0.e 27, rotate s.r1.a 36, rotate s.r2.b 10,
      rotate s.r3.c 15, rotate s.r4.d 56⟩,
    ⟨rotate s.r0.c 62, rotate s.r1.d 55, rotate s.r2.e 39,
      rotate s.r3.a 41, rotate s.r4.b 2⟩⟩

/-- Mixes each row. -/
def State.chi (s : State) : State := ⟨s.r0.chi, s.r1.chi, s.r2.chi, s.r3.chi, s.r4.chi⟩

/-- One round with its constant. -/
def State.round (s : State) (constant : UInt64) : State :=
  let t := s.theta.rhoPi.chi
  { t with r0 := { t.r0 with a := t.r0.a ^^^ constant } }

/-- The constants of the 24 rounds. -/
def roundConstants : List UInt64 :=
  [0x0000000000000001, 0x0000000000008082, 0x800000000000808A, 0x8000000080008000,
   0x000000000000808B, 0x0000000080000001, 0x8000000080008081, 0x8000000000008009,
   0x000000000000008A, 0x0000000000000088, 0x0000000080008009, 0x000000008000000A,
   0x000000008000808B, 0x800000000000008B, 0x8000000000008089, 0x8000000000008003,
   0x8000000000008002, 0x8000000000000080, 0x000000000000800A, 0x800000008000000A,
   0x8000000080008081, 0x8000000000008080, 0x0000000080000001, 0x8000000080008008]

/-- The permutation Keccak-f[1600]. -/
def permute (s : State) : State := roundConstants.foldl State.round s

/-- Eight bytes as a lane, least significant byte first. -/
def lane (bs : Bytes) : UInt64 := UInt64.ofNat (Bytes.natural (bs.take 8).reverse)

/-- The five lanes that start at the lane with number `i` of a block; lanes past the rate are
zero. -/
def rowAt (block : Bytes) (i : Nat) : Row :=
  let at_ := fun k => lane (block.drop (8 * (i + k)))
  ⟨at_ 0, at_ 1, at_ 2, at_ 3, at_ 4⟩

/-- Takes a block of 136 bytes in. -/
def absorb (s : State) (block : Bytes) : State :=
  permute ⟨s.r0.xor (rowAt block 0), s.r1.xor (rowAt block 5), s.r2.xor (rowAt block 10),
    s.r3.xor (rowAt block 15), s.r4.xor (rowAt block 20)⟩

/-- Bytes taken in by one permutation. -/
def rate : Nat := 136

/-- The padding of a message of the given length: its bits start with a one, end with a one and fill
a block. -/
def padding (length : Nat) : Bytes :=
  match rate - length % rate with
  | 0 => []
  | 1 => [0x81]
  | n + 2 => 0x01 :: (List.replicate n 0 ++ [0x80])

/-- Takes in as many whole blocks as `count` says. -/
def absorbAll : (count : Nat) → State → Bytes → State
  | 0, s, _ => s
  | count + 1, s, bs => absorbAll count (absorb s (bs.take rate)) (bs.drop rate)

/-- The state before the first block. -/
def State.zero : State :=
  let r : Row := ⟨0, 0, 0, 0, 0⟩
  ⟨r, r, r, r, r⟩

/-- A lane as eight bytes, least significant byte first. -/
def laneBytes (x : UInt64) : Bytes := (Bytes.ofNatural 8 x.toNat).reverse

/-- The Keccak-256 digest: 32 bytes. -/
def hash (message : Bytes) : Bytes :=
  let padded := message ++ padding message.length
  let s := absorbAll (padded.length / rate) State.zero padded
  laneBytes s.r0.a ++ laneBytes s.r0.b ++ laneBytes s.r0.c ++ laneBytes s.r0.d

@[simp]
theorem length_hash (message : Bytes) : (hash message).length = 32 := by
  simp [hash, laneBytes]

end BridgeWatch.Keccak
