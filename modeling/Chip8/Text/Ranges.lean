/-
Classes of characters as lists of ranges.
-/
namespace Chip8

/-- Code points from a first one to a last one. -/
abbrev CodeRange := Nat × Nat

/-- Whether a character lies in one of the ranges. -/
def inRanges (c : Char) (ranges : List CodeRange) : Bool :=
  ranges.any fun range => range.1 ≤ c.toNat && c.toNat ≤ range.2

end Chip8
