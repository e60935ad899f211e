/-!
# Ranges of code points

A character class of a standard is given as a list of inclusive ranges of code
points.  This file fixes membership in such a list.
-/

namespace BuildExplorer.Text

/-- The code points from the first to the second number, both included. -/
abbrev CodeRange := Nat × Nat

/-- Does the range hold the character? -/
def CodeRange.holds (range : CodeRange) (char : Char) : Bool :=
  range.1 ≤ char.toNat && char.toNat ≤ range.2

/-- Does one of the ranges hold the character? -/
def inRanges (ranges : List CodeRange) (char : Char) : Bool :=
  ranges.any (·.holds char)

@[simp]
theorem inRanges_nil (char : Char) : inRanges [] char = false :=
  rfl

@[simp]
theorem inRanges_cons (range : CodeRange) (ranges : List CodeRange) (char : Char) :
    inRanges (range :: ranges) char = (range.holds char || inRanges ranges char) := by
  simp [inRanges]

end BuildExplorer.Text
