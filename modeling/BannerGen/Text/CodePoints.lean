/-!
# Sets of code points

A property of characters given by a table of ranges, both ends included.
-/

namespace BannerGen.Text

/-- Whether the code point of a character lies in one of the ranges. -/
def inRanges (ranges : List (Nat × Nat)) (c : Char) : Bool :=
  ranges.any fun r => r.1 ≤ c.toNat && c.toNat ≤ r.2

end BannerGen.Text
