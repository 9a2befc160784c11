/-!
# Binary floating-point magnitudes

Non-negative numbers of 53 significant bits and a binary exponent from -1074 to 971, with rounding
to the nearest and ties to the even one. Everything is exact arithmetic on natural numbers.
-/

namespace Covenant

/-- The number `mantissa * 2 ^ (scale - 1074)`. -/
structure Binary64 where
  /-- At most `2 ^ 53`. -/
  mantissa : Nat
  /-- The binary exponent, counted from -1074. -/
  scale : Nat
  deriving DecidableEq, Repr

namespace Binary64

/-- The quotient rounded to the nearest integer, a half to the even one. -/
def roundDiv (num den : Nat) : Nat :=
  let q := num / den
  let r := num % den
  if 2 * r < den then q
  else if den < 2 * r then q + 1
  else if q % 2 == 0 then q else q + 1

/-- The least scale at which a number of this size has 53 bits or fewer: `num / den` is measured in
units of `2 ^ (-1074)`. -/
def scaleFor (num den : Nat) : Nat :=
  let guess := Nat.log2 num - Nat.log2 den - 53
  if num / (den * Nat.pow 2 guess) < Nat.pow 2 53 then guess
  else if num / (den * Nat.pow 2 (guess + 1)) < Nat.pow 2 53 then guess + 1
  else guess + 2

/-- The number nearest to `num / den`, if it is not too large for a finite one. -/
def ofRatio? (num den : Nat) : Option Binary64 :=
  let units := num * Nat.pow 2 1074
  let scale := scaleFor units den
  let mantissa := roundDiv units (den * Nat.pow 2 scale)
  let rounded : Binary64 :=
    if mantissa == Nat.pow 2 53 then ⟨Nat.pow 2 52, scale + 1⟩ else ⟨mantissa, scale⟩
  if rounded.scale ≤ 2045 then some rounded else none

/-- A natural number, rounded. -/
def ofNat? (n : Nat) : Option Binary64 :=
  ofRatio? n 1

/-- The product, rounded. -/
def mul? (a b : Binary64) : Option Binary64 :=
  ofRatio? (a.mantissa * b.mantissa * Nat.pow 2 (a.scale + b.scale)) (Nat.pow 2 2148)

/-- The quotient by a number that is not zero, rounded. -/
def div? (a b : Binary64) : Option Binary64 :=
  ofRatio? (a.mantissa * Nat.pow 2 a.scale) (b.mantissa * Nat.pow 2 b.scale)

/-- A significand times a power of ten, with one rounding for the significand, one for the power and
one for their product. A power beyond `10 ^ -308` is divided out in steps, by `steps` at most. -/
def scaleByTen? : (steps : Nat) → Binary64 → Int → Option Binary64
  | 0, f, _ => some f
  | steps + 1, f, exponent =>
    if exponent.natAbs ≤ 308 then
      match ofNat? (Nat.pow 10 exponent.natAbs) with
      | none => none
      | some power => if 0 ≤ exponent then f.mul? power else f.div? power
    else if f.mantissa == 0 then some f
    else if 0 ≤ exponent then none
    else
      match ofNat? (Nat.pow 10 308) with
      | none => none
      | some power =>
        match f.div? power with
        | none => none
        | some smaller => scaleByTen? steps smaller (exponent + 308)

/-- The number written as a significand and a power of ten. Three steps of 308 bring every 64-bit
significand to zero. -/
def ofDecimal? (significand : Nat) (exponent : Int) : Option Binary64 :=
  match ofNat? significand with
  | none => none
  | some f => scaleByTen? 4 f exponent

end Binary64

end Covenant
