/-!
# Tables of code points

A character class is given as a list of closed ranges of code points.
-/

set_option autoImplicit false

namespace SearchQuery.Text

/-- A closed range of code points: the first and the last. -/
abbrev CodeRange := Nat × Nat

def inRanges (table : List CodeRange) (c : Char) : Bool :=
  table.any fun range => decide (range.1 ≤ c.toNat) && decide (c.toNat ≤ range.2)

end SearchQuery.Text
