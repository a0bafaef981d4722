/-!
# Ranges of characters

Properties of characters are given by ranges of their numbers.
-/

namespace SurveyDispatch.Text

/-- The number of a character is in one of the ranges, whose ends are both included. -/
def inRanges (ranges : List (Nat × Nat)) (c : Char) : Bool :=
  ranges.any fun r => r.1 ≤ c.toNat && c.toNat ≤ r.2

end SurveyDispatch.Text
