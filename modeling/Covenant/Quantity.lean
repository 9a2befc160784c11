/-!
# Signed 64-bit quantities

Ids, amounts and fuel are integers between `Quantity.least` and `Quantity.greatest`. Arithmetic on
them stops at the two ends, or else has no result beyond them. The operations work on all integers, and
what they give is in range.
-/

namespace Covenant.Quantity

/-- The least quantity, `-2^63`. -/
def least : Int := -9223372036854775808

/-- The greatest quantity, `2^63 - 1`. -/
def greatest : Int := 9223372036854775807

/-- The number is a quantity. -/
def InRange (n : Int) : Prop :=
  least ≤ n ∧ n ≤ greatest

instance (n : Int) : Decidable (InRange n) :=
  inferInstanceAs (Decidable (_ ∧ _))

/-- The quantity nearest to a number. -/
def clamp (n : Int) : Int :=
  if n < least then least else if greatest < n then greatest else n

/-- The sum, held at the ends of the range. -/
def add (a b : Int) : Int :=
  clamp (a + b)

/-- The difference, held at the ends of the range. -/
def sub (a b : Int) : Int :=
  clamp (a - b)

/-- The product, held at the ends of the range. -/
def mul (a b : Int) : Int :=
  clamp (a * b)

/-- The number, if it is a quantity. -/
def ofInt? (n : Int) : Option Int :=
  if InRange n then some n else none

/-- The sum, if it is a quantity. -/
def sum? (a b : Int) : Option Int :=
  ofInt? (a + b)

/-- The difference, if it is a quantity. -/
def difference? (a b : Int) : Option Int :=
  ofInt? (a - b)

theorem clamp_inRange (n : Int) : InRange (clamp n) := by
  unfold clamp InRange least greatest
  split
  · omega
  · split <;> omega

theorem clamp_of_inRange {n : Int} (h : InRange n) : clamp n = n := by
  unfold InRange least greatest at h
  unfold clamp least greatest
  split
  · omega
  · split <;> omega

theorem clamp_nonneg {n : Int} (h : 0 ≤ n) : 0 ≤ clamp n := by
  unfold clamp least greatest
  split
  · omega
  · split <;> omega

theorem add_inRange (a b : Int) : InRange (add a b) :=
  clamp_inRange _

theorem sub_inRange (a b : Int) : InRange (sub a b) :=
  clamp_inRange _

theorem mul_inRange (a b : Int) : InRange (mul a b) :=
  clamp_inRange _

theorem ofInt?_eq_some_iff {n m : Int} : ofInt? n = some m ↔ InRange m ∧ m = n := by
  unfold ofInt?
  constructor
  · intro h
    split at h
    next hrange =>
      obtain rfl := Option.some.inj h
      exact ⟨hrange, rfl⟩
    next => cases h
  · rintro ⟨hrange, rfl⟩
    exact if_pos hrange

/-- A sum that there is is exact. -/
theorem sum?_eq_some_iff {a b c : Int} : sum? a b = some c ↔ InRange c ∧ c = a + b :=
  ofInt?_eq_some_iff

/-- A difference that there is is exact. -/
theorem difference?_eq_some_iff {a b c : Int} :
    difference? a b = some c ↔ InRange c ∧ c = a - b :=
  ofInt?_eq_some_iff

/-- The unsigned number with the same 64 bits. -/
def toUnsigned (n : Int) : Nat :=
  (n % 18446744073709551616).toNat

/-- The quantity with the 64 bits of an unsigned number. -/
def ofUnsigned (n : Nat) : Int :=
  Int.bmod n 18446744073709551616

end Covenant.Quantity
