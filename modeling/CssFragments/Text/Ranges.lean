/-! # Ranges of characters

Classes of characters are given as tables of intervals of code points.

* `inRanges`: whether a table holds a code point.
* `inRanges_eq_true_iff`: it does so if one of its intervals does. -/

namespace CssFragments

/-- Whether one of the given intervals of code points, both ends included, holds `n`. -/
def inRanges (ranges : Array (Nat × Nat)) (n : Nat) : Bool :=
  ranges.any fun r => r.1 ≤ n && n ≤ r.2

/-- A table holds what one of its intervals holds. -/
theorem inRanges_eq_true_iff {ranges : Array (Nat × Nat)} {n : Nat} :
    inRanges ranges n = true ↔ ∃ r ∈ ranges, r.1 ≤ n ∧ n ≤ r.2 := by
  simp only [inRanges, Array.any_eq_true', Bool.and_eq_true, decide_eq_true_eq]

end CssFragments
