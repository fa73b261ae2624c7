/-!
# Sets of characters

A set of characters given by ranges of code points, first and last included.
-/

namespace CommitStamp.Text

/-- Whether the code point of `c` is in one of the ranges. -/
def inRanges (ranges : List (Nat × Nat)) (c : Char) : Bool :=
  ranges.any fun (first, last) => first ≤ c.toNat && c.toNat ≤ last

end CommitStamp.Text
