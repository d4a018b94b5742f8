/-
  Sets of characters as tables.

  A table lists ranges of code points, with both ends.  It is cut into pieces of a hundred ranges or so,
  which keeps the terms small.
-/

namespace BenchSweep.Text

/-- Whether the code point of a character is in one of the ranges. -/
def inRanges (ranges : List (List (Nat × Nat))) (c : Char) : Bool :=
  ranges.any (·.any fun (low, high) => low ≤ c.toNat && c.toNat ≤ high)

end BenchSweep.Text
