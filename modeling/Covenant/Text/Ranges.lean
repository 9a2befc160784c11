/-!
# Classes of characters given by ranges

A class of characters is a list of ranges of code points; membership is a search through the list.
-/

namespace Covenant.Text

/-- The code point of the character lies in one of the ranges, ends included. -/
def inRanges (ranges : List (Nat × Nat)) (c : Char) : Bool :=
  ranges.any fun range => range.1 ≤ c.toNat && c.toNat ≤ range.2

end Covenant.Text
