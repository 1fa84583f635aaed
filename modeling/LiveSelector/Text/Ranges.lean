namespace LiveSelector.Text

/-!
Sets of characters given as a list of code point ranges, both ends included.
-/

/-- Whether a character's code point lies in one of the ranges. -/
def inRanges (ranges : List (Nat × Nat)) (c : Char) : Bool :=
  ranges.any fun range => range.1 ≤ c.toNat && c.toNat ≤ range.2

end LiveSelector.Text
