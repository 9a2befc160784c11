/-!
# The Keccak-256 digest

The sponge with a rate of 136 bytes and the padding `0x01 … 0x80`, over a state of five by five
64-bit lanes. Lane `(x, y)` stands at place `x + 5 * y`.
-/

namespace Covenant.Keccak

/-- The state of the permutation. -/
abbrev State :=
  Vector UInt64 25

/-- The lane at `(x, y)`, both taken modulo five. -/
def lane (a : State) (x y : Nat) : UInt64 :=
  a.get ⟨x % 5 + 5 * (y % 5), by omega⟩

/-- The state with the given lanes. -/
def ofLanes (f : Nat → Nat → UInt64) : State :=
  Vector.ofFn fun i : Fin 25 => f (i.val % 5) (i.val / 5)

/-- Rotates a lane to the left. -/
def rotate (w : UInt64) (n : Nat) : UInt64 :=
  if n == 0 then w else (w <<< UInt64.ofNat n) ||| (w >>> UInt64.ofNat (64 - n))

/-- By how much the lanes are rotated, row by row. -/
def rotations : Vector Nat 25 :=
  #v[0, 1, 62, 28, 27, 36, 44, 6, 55, 20, 3, 10, 43, 25, 39, 41, 45, 15, 21, 8, 18, 2, 61, 56, 14]

/-- The constants that are added to the first lane, one for each round. -/
def roundConstants : List UInt64 :=
  [0x0000000000000001, 0x0000000000008082, 0x800000000000808A, 0x8000000080008000,
    0x000000000000808B, 0x0000000080000001, 0x8000000080008081, 0x8000000000008009,
    0x000000000000008A, 0x0000000000000088, 0x0000000080008009, 0x000000008000000A,
    0x000000008000808B, 0x800000000000008B, 0x8000000000008089, 0x8000000000008003,
    0x8000000000008002, 0x8000000000000080, 0x000000000000800A, 0x800000008000000A,
    0x8000000080008081, 0x8000000000008080, 0x0000000080000001, 0x8000000080008008]

/-- Adds the parities of two neighbouring columns to every lane. -/
def theta (a : State) : State :=
  let parity : Vector UInt64 5 := Vector.ofFn fun x : Fin 5 =>
    lane a x 0 ^^^ lane a x 1 ^^^ lane a x 2 ^^^ lane a x 3 ^^^ lane a x 4
  let column (x : Nat) : UInt64 := parity.get ⟨x % 5, by omega⟩
  ofLanes fun x y => lane a x y ^^^ column (x + 4) ^^^ rotate (column (x + 1)) 1

/-- Rotates the lanes and moves the lane at `(x, y)` to `(y, 2 x + 3 y)`. -/
def rhoPi (a : State) : State :=
  ofLanes fun x y =>
    let source := x + 3 * y
    rotate (lane a source x) (rotations.get ⟨source % 5 + 5 * (x % 5), by omega⟩)

/-- Combines every lane with the two that follow in its row. -/
def chi (a : State) : State :=
  ofLanes fun x y => lane a x y ^^^ ((~~~ lane a (x + 1) y) &&& lane a (x + 2) y)

/-- Adds a round constant to the first lane. -/
def iota (constant : UInt64) (a : State) : State :=
  a.set 0 (lane a 0 0 ^^^ constant)

/-- The permutation. -/
def permute (a : State) : State :=
  roundConstants.foldl (fun a constant => iota constant (chi (rhoPi (theta a)))) a

/-- The number of bytes that are taken in at a time. -/
def rate : Nat := 136

/-- A message filled up to a multiple of the rate. -/
def pad (message : List UInt8) : List UInt8 :=
  let free := rate - message.length % rate
  if free == 1 then message ++ [0x81]
  else message ++ 0x01 :: (List.replicate (free - 2) 0 ++ [0x80])

/-- The lane of eight bytes, lowest first. -/
def laneOfBytes (bytes : List UInt8) : UInt64 :=
  bytes.foldr (fun b w => (w <<< 8) ||| b.toUInt64) 0

/-- The bytes of a lane, lowest first. -/
def bytesOfLane (w : UInt64) : List UInt8 :=
  (List.range 8).map fun i => (w >>> UInt64.ofNat (8 * i)).toUInt8

/-- Adds a block of bytes to the state. -/
def absorb (a : State) (block : Array UInt8) : State :=
  Vector.ofFn fun i : Fin 25 =>
    let bytes := (List.range 8).filterMap fun k => block[8 * i.val + k]?
    a.get i ^^^ laneOfBytes bytes

/-- Takes in blocks, `count` of them. -/
def absorbBlocks : (count : Nat) → List UInt8 → State → State
  | 0, _, a => a
  | count + 1, bytes, a =>
    absorbBlocks count (bytes.drop rate) (permute (absorb a (bytes.take rate).toArray))

/-- The digest of a message, which has 32 bytes. -/
def digest (message : List UInt8) : List UInt8 :=
  let padded := pad message
  let a := absorbBlocks (padded.length / rate) padded (Vector.replicate 25 0)
  (a.toList.take 4).flatMap bytesOfLane

end Covenant.Keccak
