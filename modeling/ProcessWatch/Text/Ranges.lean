/-!
# Ranges of code points

Properties of characters are kept as ranges of code points, as the tables of the Unicode standard
list them.
-/

namespace ProcessWatch.Text

/-- First and last code points of ranges. -/
abbrev Ranges := List (Nat × Nat)

/-- Whether a character lies in one of some ranges. -/
def Ranges.contain (ranges : Ranges) (c : Char) : Bool :=
  ranges.any fun range => range.1 ≤ c.toNat && c.toNat ≤ range.2

end ProcessWatch.Text
