/-! Sets of code points given by the points at which membership changes. Membership is found by
bisection, so a table of a thousand ranges costs about ten comparisons. -/
namespace GlulxAsm.Text

/-- A code point belongs to the set when an odd number of `bounds` lie at or below it; the bounds
are in ascending order. -/
structure CodePointSet where
  bounds : Array Nat

namespace CodePointSet

/-- The first index from `low` up to `high` whose bound lies above `point`, or `high`. -/
def firstAbove (bounds : Array Nat) (point low high : Nat) : Nat :=
  if low < high then
    let middle := (low + high) / 2
    if bounds.getD middle 0 ≤ point then firstAbove bounds point (middle + 1) high
    else firstAbove bounds point low middle
  else high
termination_by high - low
decreasing_by all_goals omega

def contains (set : CodePointSet) (point : Nat) : Bool :=
  firstAbove set.bounds point 0 set.bounds.size % 2 == 1

end CodePointSet

end GlulxAsm.Text
