/-!
# Sets of code points given by ranges

A character class is written as a list of inclusive code point ranges. Main statement:
a code point is in the class exactly when one of the ranges holds it (`inRanges_iff`).
-/

namespace BlogGraph.Text

/-- The code point `n` lies in one of the inclusive ranges. -/
def inRanges (ranges : List (Nat × Nat)) (n : Nat) : Bool :=
  ranges.any fun r => r.1 ≤ n && n ≤ r.2

theorem inRanges_iff (ranges : List (Nat × Nat)) (n : Nat) :
    inRanges ranges n = true ↔ ∃ r ∈ ranges, r.1 ≤ n ∧ n ≤ r.2 := by
  simp [inRanges]

end BlogGraph.Text
