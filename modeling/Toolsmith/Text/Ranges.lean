/-!
# Sets of characters given by ranges

A property of characters that a standard fixes by listing is kept as a list of ranges of code
points, both ends included.
-/

namespace Toolsmith.Text

/-- Ranges of code points, both ends included. -/
abbrev Ranges := List (Nat × Nat)

def Ranges.contains (ranges : Ranges) (c : Char) : Bool :=
  ranges.any fun range => range.1 ≤ c.toNat && c.toNat ≤ range.2

end Toolsmith.Text
