/-!
# Ranges of code points

Character classes are given as tables of closed ranges, in increasing order.
-/

namespace DepGraph

/-- A closed range of code points, by its first and its last. -/
abbrev CodeRange := Nat × Nat

/-- Whether a range holds a code point. -/
def CodeRange.holds (r : CodeRange) (n : Nat) : Bool := r.1 ≤ n && n ≤ r.2

/-- Whether one of the ranges of a table holds a code point. -/
def inRanges (table : List CodeRange) (n : Nat) : Bool := table.any (·.holds n)

/-- A table holds exactly the code points of its ranges. -/
theorem inRanges_iff {table : List CodeRange} {n : Nat} :
    inRanges table n = true ↔ ∃ r ∈ table, r.1 ≤ n ∧ n ≤ r.2 := by
  simp [inRanges, CodeRange.holds]

end DepGraph
