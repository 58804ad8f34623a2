/-!
# Ranges of code points

Character classes that no short rule describes are given as lists of closed ranges of code points.
-/

namespace Workflow.Text

/-- A closed range of code points: its first and its last member. -/
abbrev CodeRange := Nat × Nat

/-- Whether some range of the list holds the character. -/
def CodeRange.covers (ranges : List CodeRange) (c : Char) : Bool :=
  ranges.any fun range => decide (range.1 ≤ c.toNat ∧ c.toNat ≤ range.2)

end Workflow.Text
