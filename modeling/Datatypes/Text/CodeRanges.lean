/-! # Ranges of code points

Sets of characters, given by the first and the last code point of each run.
-/

namespace Datatypes.Text

/-- Runs of code points, each from its first to its last one. -/
abbrev CodeRanges := List (Nat × Nat)

/-- A character that belongs to one of the runs. -/
def CodeRanges.has (ranges : CodeRanges) (c : Char) : Bool :=
  ranges.any fun (first, last) => first ≤ c.toNat && c.toNat ≤ last

end Datatypes.Text
