/-!
Classes of characters given as ranges of code points.
-/

namespace Calculator.Text

/-- Does the character lie in one of the ranges? Both ends of a range belong to it. -/
def inRanges (ranges : List (Nat × Nat)) (c : Char) : Bool :=
  ranges.any fun range => range.1 ≤ c.toNat && c.toNat ≤ range.2

end Calculator.Text
