/-
Places in a row.

A number names a place counted from the front, beginning with zero, or, if it is
negative, counted backwards from the end, beginning with minus one.
-/
namespace Chip8

/-- The place in a row of some size that a number names. -/
def place? (size : Nat) (i : Int) : Option (Fin size) :=
  if h : 0 ≤ i ∧ i < size then some ⟨i.toNat, by omega⟩
  else if h : -(size : Int) ≤ i ∧ i < 0 then some ⟨(i + size).toNat, by omega⟩
  else none

theorem place?_isSome_iff {size : Nat} {i : Int} :
    (place? size i).isSome ↔ -(size : Int) ≤ i ∧ i < size := by
  unfold place?
  split
  · simp only [Option.isSome_some, true_iff]
    omega
  · split
    · simp only [Option.isSome_some, true_iff]
      omega
    · simp only [Option.isSome_none, Bool.false_eq_true, false_iff]
      omega

end Chip8
