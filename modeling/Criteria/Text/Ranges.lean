/-!
# Ranges of characters

Classes of characters given by ranges of code points.
-/

namespace Criteria.Text

/-- Whether a character lies in one of the ranges, ends included. -/
def inRanges (ranges : List (Nat × Nat)) (c : Char) : Bool :=
  ranges.any fun r => r.1 ≤ c.toNat && c.toNat ≤ r.2

end Criteria.Text
