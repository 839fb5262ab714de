/-!
Sets of characters given by ranges of code points, the form in which the character properties
of this library are tabulated.
-/

namespace LiveTemplate.Text

/-- Closed ranges of code points in ascending order. -/
abbrev Ranges := List (Nat × Nat)

/-- Whether a character lies in one of the ranges. -/
def Ranges.contains (ranges : Ranges) (c : Char) : Bool :=
  ranges.any fun range => range.1 ≤ c.toNat && c.toNat ≤ range.2

end LiveTemplate.Text
