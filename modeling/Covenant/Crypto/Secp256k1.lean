/-!
# The curve secp256k1

Points on `y² = x³ + 7` over the field of `p` elements, and ECDSA signatures with its generator of
order `n`. Points are kept with a denominator while they are added, so that only one inversion is
needed in the end.
-/

namespace Covenant.Secp256k1

/-- The number of elements of the field. -/
def p : Nat := 0xFFFFFFFFFFFFFFFFFFFFFFFFFFFFFFFFFFFFFFFFFFFFFFFFFFFFFFFEFFFFFC2F

/-- The order of the generator. -/
def n : Nat := 0xFFFFFFFFFFFFFFFFFFFFFFFFFFFFFFFEBAAEDCE6AF48A03BBFD25E8CD0364141

/-- A point of the curve that is not at infinity. -/
structure Point where
  x : Nat
  y : Nat
  deriving DecidableEq, Repr

/-- The generator. -/
def generator : Point :=
  ⟨0x79BE667EF9DCBBAC55A06295CE870B07029BFCDB2DCE28D959F2815B16F81798,
    0x483ADA7726A3C4655DA4FBFC0E1108A8FD17B448A68554199C47D08FFB10D4B8⟩

/-- The coordinates belong to the field and satisfy the equation of the curve. -/
def Point.isOnCurve (point : Point) : Bool :=
  point.x < p && point.y < p &&
    (point.y * point.y) % p == (point.x * point.x % p * point.x + 7) % p

/-- The difference modulo `m` of two numbers below `m`. -/
def subMod (m a b : Nat) : Nat :=
  (a + (m - b)) % m

/-- The power modulo `m`, with an exponent below `2 ^ bits`. -/
def powMod (m : Nat) : (bits base exponent : Nat) → Nat
  | 0, _, _ => 1
  | bits + 1, base, exponent =>
    let square := powMod m bits (base * base % m) (exponent / 2)
    if exponent % 2 == 1 then square * base % m else square

/-- The inverse modulo a prime of 256 bits. -/
def invMod (m a : Nat) : Nat :=
  powMod m 256 a (m - 2)

/-- The point `(x / z², y / z³)`, which is at infinity if `z` is zero. -/
structure Weighted where
  x : Nat
  y : Nat
  z : Nat

namespace Weighted

/-- The point at infinity. -/
def infinity : Weighted := ⟨1, 1, 0⟩

/-- Twice a point. -/
def double (a : Weighted) : Weighted :=
  if a.z == 0 then a
  else
    let yy := a.y * a.y % p
    let s := 4 * a.x * yy % p
    let m := 3 * a.x * a.x % p
    let x := subMod p (m * m % p) (2 * s % p)
    let y := subMod p (m * subMod p s x % p) (8 * yy * yy % p)
    ⟨x, y, 2 * a.y * a.z % p⟩

/-- The sum of two points. -/
def add (a b : Weighted) : Weighted :=
  if a.z == 0 then b
  else if b.z == 0 then a
  else
    let aa := a.z * a.z % p
    let bb := b.z * b.z % p
    let u := a.x * bb % p
    let v := b.x * aa % p
    let s := a.y * bb % p * b.z % p
    let t := b.y * aa % p * a.z % p
    if u == v then
      if s == t then a.double else infinity
    else
      let h := subMod p v u
      let r := subMod p t s
      let hh := h * h % p
      let hhh := hh * h % p
      let w := u * hh % p
      let x := subMod p (subMod p (r * r % p) hhh) (2 * w % p)
      let y := subMod p (r * subMod p w x % p) (s * hhh % p)
      ⟨x, y, a.z * b.z % p * h % p⟩

/-- The multiple of a point by a number below `2 ^ bits`. -/
def scale : (bits k : Nat) → Weighted → Weighted
  | 0, _, _ => infinity
  | bits + 1, k, a =>
    let rest := scale bits (k / 2) a.double
    if k % 2 == 1 then add rest a else rest

/-- The first coordinate, unless the point is at infinity. -/
def x? (a : Weighted) : Option Nat :=
  if a.z == 0 then none
  else
    let inverse := invMod p a.z
    some (a.x * (inverse * inverse % p) % p)

end Weighted

/-- A point without denominator. -/
def Point.weighted (point : Point) : Weighted :=
  ⟨point.x, point.y, 1⟩

/-- The point with a first coordinate and the parity of the second, if the curve has one. -/
def lift? (x : Nat) (odd : Bool) : Option Point :=
  let y := powMod p 256 ((x * x % p * x + 7) % p) ((p + 1) / 4)
  let point : Point := ⟨x, if (y % 2 == 1) == odd then y else (p - y) % p⟩
  if point.isOnCurve then some point else none

/-- The number with the given bytes, highest first. -/
def ofBytes (bytes : List UInt8) : Nat :=
  bytes.foldl (fun n b => n * 256 + b.toNat) 0

/-- The last `count` bytes of a number, highest first. -/
def toBytes : (count n : Nat) → List UInt8
  | 0, _ => []
  | count + 1, n => toBytes count (n / 256) ++ [UInt8.ofNat (n % 256)]

/-- A point given by both coordinates. -/
def pointOfBytes? (bytes : List UInt8) : Option Point :=
  let point : Point := ⟨ofBytes (bytes.take 32), ofBytes (bytes.drop 32)⟩
  if point.isOnCurve then some point else none

/-- The point that a public key encodes: both coordinates, with or without the tag 4 in front, or
the first coordinate behind a tag that gives the parity of the second; the tag 5 stands for even. -/
def pointOfKey? (key : List UInt8) : Option Point :=
  if key.length = 64 then pointOfBytes? key
  else
    match key with
    | [] => none
    | tag :: coordinates =>
      if tag = 4 then if coordinates.length = 64 then pointOfBytes? coordinates else none
      else if coordinates.length = 32 then
        if tag = 2 ∨ tag = 5 then lift? (ofBytes coordinates) false
        else if tag = 3 then lift? (ofBytes coordinates) true
        else none
      else none

/-- The coordinates of a point in 64 bytes. -/
def Point.toBytes (point : Point) : List UInt8 :=
  Secp256k1.toBytes 32 point.x ++ Secp256k1.toBytes 32 point.y

/-- The two numbers of a signature, each at least one and below the order of the generator. -/
def signatureOfBytes? (bytes : List UInt8) : Option (Nat × Nat) :=
  let r := ofBytes (bytes.take 32)
  let s := ofBytes (bytes.drop 32)
  if bytes.length = 64 ∧ 0 < r ∧ r < n ∧ 0 < s ∧ s < n then some (r, s) else none

/-- The signature `(r, s)` of a digest belongs to the point. -/
def verify (point : Point) (digest : List UInt8) (r s : Nat) : Bool :=
  let inverse := invMod n s
  let u := ofBytes digest % n * inverse % n
  let v := r * inverse % n
  let sum := Weighted.add (.scale 256 u generator.weighted) (.scale 256 v point.weighted)
  match sum.x? with
  | some x => x % n == r
  | none => false

end Covenant.Secp256k1
