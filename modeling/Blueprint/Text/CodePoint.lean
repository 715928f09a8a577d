/-!
# Sets of code points

A set of code points is a list of closed ranges, ascending and apart.
-/
namespace Blueprint.Text

/-- Closed ranges of code points, ascending and apart. -/
abbrev CodeRanges := List (Nat × Nat)

namespace CodeRanges

/-- Membership. The search ends at the first range that starts beyond the code point. -/
def contains : CodeRanges → Nat → Bool
  | [], _ => false
  | (low, high) :: rest, n =>
    if n < low then false else if n ≤ high then true else contains rest n

end CodeRanges

end Blueprint.Text
