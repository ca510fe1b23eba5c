/-! # Ranges of characters

Classes of characters are kept as ranges of code points, with both ends included.
-/

namespace CarbonSurvey.Text

abbrev Ranges := List (Nat × Nat)

/-- Whether a character is in one of the ranges. -/
def Ranges.contains (ranges : Ranges) (c : Char) : Bool :=
  ranges.any fun range => range.1 ≤ c.toNat && c.toNat ≤ range.2

end CarbonSurvey.Text
