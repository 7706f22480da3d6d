/-!
# Ranges of characters

Classes of characters are given as ascending lists of code point ranges, both ends included.
-/
namespace DiagramWeave.Text

/-- The character lies in one of the ranges. -/
def inRanges (ranges : List (Nat × Nat)) (c : Char) : Bool :=
  ranges.any fun range => range.1 ≤ c.toNat && c.toNat ≤ range.2

end DiagramWeave.Text
