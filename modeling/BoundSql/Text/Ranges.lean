/-!
# Ranges of characters

A set of characters given by closed ranges of code points.
-/

namespace BoundSql.Text

/-- Closed ranges of code points, each given by its first and its last. -/
abbrev Ranges := List (Nat × Nat)

namespace Ranges

/-- Whether a character lies in one of the ranges. -/
def contains (ranges : Ranges) (c : Char) : Bool :=
  ranges.any fun (first, last) => first ≤ c.toNat && c.toNat ≤ last

end Ranges

end BoundSql.Text
