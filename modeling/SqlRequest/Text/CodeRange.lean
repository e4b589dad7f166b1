/-!
Sets of characters given as ascending, disjoint ranges of code points.
-/

namespace SqlRequest.Text

/-- Whether a code point lies in one of the ranges, ends included. The ranges
ascend, so the search stops at the first one that starts above the point. -/
def inRanges : List (Nat × Nat) → Nat → Bool
  | [], _ => false
  | (first, last) :: ranges, n =>
    if n < first then false else n ≤ last || inRanges ranges n

end SqlRequest.Text
