namespace Switchyard.Text

/-- Whether a code point is in one of the ranges, each given by its first and last code point. -/
def inRanges (n : Nat) (ranges : List (Nat × Nat)) : Bool :=
  ranges.any fun r => r.1 ≤ n && n ≤ r.2

end Switchyard.Text
