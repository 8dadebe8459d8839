/-!
# Ranges of code points

Properties of characters are given by tables of inclusive ranges of code points.

## Main definitions

* `CodeRanges.contains`: membership of a code point
-/

namespace ImportOrder

/-- **A set of code points** as inclusive ranges. -/
abbrev CodeRanges := List (Nat × Nat)

namespace CodeRanges

/-- Whether a code point lies in one of the ranges. -/
def contains (rs : CodeRanges) (n : Nat) : Bool := rs.any fun r => r.1 ≤ n && n ≤ r.2

end CodeRanges

end ImportOrder
