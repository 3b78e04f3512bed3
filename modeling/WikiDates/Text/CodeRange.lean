/-!
# Sets of characters as code ranges

A character class of the Unicode standard is written as the list of its runs of consecutive code
points, each run given by its first and last code point. Membership is a search of that list.
-/

namespace WikiDates.Text

/-- Whether the code point of `c` lies in one of the runs. -/
def inRanges (runs : List (Nat × Nat)) (c : Char) : Bool :=
  runs.any fun run => run.1 ≤ c.toNat && c.toNat ≤ run.2

end WikiDates.Text
