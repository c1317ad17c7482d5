/-!
# Ranges of code points

A property of characters is given as a table of ranges of code points.

* `inRanges` — whether a code point lies in one of the ranges.
-/

namespace BlockCursor.Text

/-- Whether a code point lies in one of the ranges, each given by its first and its last member. -/
def inRanges (ranges : List (Nat × Nat)) (n : Nat) : Bool :=
  ranges.any fun (first, last) => first ≤ n && n ≤ last

end BlockCursor.Text
