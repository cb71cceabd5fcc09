/-!
# Ranges of code points

Properties of characters are kept as lists of ranges, each given by its first
and last code point.
-/

namespace CoherentTasks.Text

/-- Whether some range holds the code point. -/
def inRanges (ranges : List (Nat × Nat)) (code : Nat) : Bool :=
  ranges.any fun range => range.1 ≤ code && code ≤ range.2

end CoherentTasks.Text
