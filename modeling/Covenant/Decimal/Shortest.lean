import Covenant.Decimal.Binary64

/-!
# Shortest decimals

The fewest digits that read back as a given floating-point number; of several decimals with that
many digits the one nearest to it, and of two equally near the even one.
-/

namespace Covenant.Binary64

/-- Twice the distance of a rounding interval is measured in quarters of a unit in the last place:
the interval around the number reaches down by this many quarters. Below a power of two the
neighbour is half as far away. -/
def quartersBelow (f : Binary64) : Nat :=
  if f.mantissa == Nat.pow 2 52 && 0 < f.scale then 1 else 2

/-- The decimal `digits * 10 ^ exponent` rounds to the number. Both are compared as multiples of a
common unit, and the ends of the interval belong to it if the mantissa is even. -/
def readsBack (f : Binary64) (digits : Nat) (exponent : Int) : Bool :=
  let unit := Nat.pow 2 f.scale
  let low := (4 * f.mantissa - f.quartersBelow) * unit
  let high := (4 * f.mantissa + 2) * unit
  let factor := 4 * Nat.pow 2 1074
  let tens := Nat.pow 10 exponent.natAbs
  let (low, high, value) :=
    if 0 ≤ exponent then (low, high, digits * tens * factor)
    else (low * tens, high * tens, digits * factor)
  if f.mantissa % 2 == 0 then low ≤ value && value ≤ high else low < value && value < high

/-- The number as a fraction of natural numbers in units of `10 ^ exponent`. -/
def inTens (f : Binary64) (exponent : Int) : Nat × Nat :=
  let num := f.mantissa * Nat.pow 2 f.scale
  let tens := Nat.pow 10 exponent.natAbs
  if 0 ≤ exponent then (num, Nat.pow 2 1074 * tens)
  else (num * tens, Nat.pow 2 1074)

/-- The decimal on one grid that reads back and is nearest to the number, if any does. -/
def onGrid? (f : Binary64) (exponent : Int) : Option Nat :=
  let (num, den) := f.inTens exponent
  let below := num / den
  let near := roundDiv num den
  let far := if near == below then below + 1 else below
  if f.readsBack near exponent then some near
  else if f.readsBack far exponent then some far
  else none

/-- Walks from coarse grids to fine ones, by `steps` at most. -/
def firstGrid : (steps : Nat) → Binary64 → Int → Nat × Int
  | 0, _, exponent => (0, exponent)
  | steps + 1, f, exponent =>
    match f.onGrid? exponent with
    | some digits => (digits, exponent)
    | none => firstGrid steps f (exponent - 1)

/-- Takes trailing zeros off the digits, by `steps` at most. -/
def dropZeros : (steps : Nat) → Nat → Int → Nat × Int
  | 0, digits, exponent => (digits, exponent)
  | steps + 1, digits, exponent =>
    if digits % 10 == 0 && digits != 0 then dropZeros steps (digits / 10) (exponent + 1)
    else (digits, exponent)

/-- The shortest digits of a positive number and the power of ten they are multiplied by. -/
def shortest (f : Binary64) : Nat × Int :=
  let top := ((Nat.log2 f.mantissa + f.scale : Nat) - 1074 : Int) * 3 / 10 + 2
  let (digits, exponent) := firstGrid 40 f top
  dropZeros 20 digits exponent

/-- The text of a number: positional from `0.00001` up to sixteen digits before the point, always
with a point; otherwise one digit, the rest behind a point if there is any, and the exponent with
its sign. -/
def text (f : Binary64) : String :=
  if f.mantissa == 0 then "0.0"
  else
    let (digits, exponent) := f.shortest
    let shown := toString digits
    let places : Int := shown.length + exponent
    let zeros (n : Nat) := String.ofList (List.replicate n '0')
    if 0 ≤ exponent && places ≤ 16 then shown ++ zeros exponent.toNat ++ ".0"
    else if 0 < places && places ≤ 16 then
      String.ofList (shown.toList.take places.toNat) ++ "."
        ++ String.ofList (shown.toList.drop places.toNat)
    else if -5 < places && places ≤ 0 then "0." ++ zeros (-places).toNat ++ shown
    else
      let mantissa :=
        if shown.length == 1 then shown
        else String.ofList (shown.toList.take 1) ++ "." ++ String.ofList (shown.toList.drop 1)
      let power := places - 1
      mantissa ++ (if power < 0 then "e-" else "e+") ++ toString power.natAbs

end Covenant.Binary64
