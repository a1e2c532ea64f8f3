/-!
# Ranges of code points

A class of characters is given by the ranges of code points that it consists of.
-/

namespace TimeRange.Text

/-- Ranges of code points by their first and last ones, in increasing order. -/
abbrev CodeRanges := List (Nat × Nat)

def CodeRanges.has (ranges : CodeRanges) (character : Char) : Bool :=
  ranges.any fun range => range.1 ≤ character.toNat && character.toNat ≤ range.2

end TimeRange.Text
