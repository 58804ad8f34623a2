/-!
# Positions

A position in a list is a number that counts from the start, or from the end if it is negative.
-/

namespace Workflow.Position

variable {α : Type}

/-- The offset from the start that a position in a list of the given length means, if it has one. -/
def offset? (length : Nat) (position : Int) : Option Nat :=
  if 0 ≤ position then some position.toNat
  else
    let fromEnd := (-position).toNat
    if fromEnd ≤ length then some (length - fromEnd) else none

/-- The item at a position. -/
def item? (items : List α) (position : Int) : Option α :=
  (offset? items.length position).bind fun offset => items[offset]?

end Workflow.Position
