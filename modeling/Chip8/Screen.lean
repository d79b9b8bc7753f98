/-
The monochrome screen.

A screen is a grid whose edges meet: any pair of integers names a cell, by its
remainders.  The only way to draw is to flip cells, so a cell is lit exactly when it
was flipped an odd number of times since the screen was cleared.

A sprite is a column of rows of eight cells.  Drawing one flips the cells under its
set bits and tells whether any cell went dark, which programs use to see that two
figures touch.
-/
namespace Chip8

/-- A grid of cells, row after row, at least one cell wide and high. -/
structure Screen where
  width : Nat
  height : Nat
  cells : Array Bool
  width_pos : 0 < width
  height_pos : 0 < height
  size_eq : cells.size = width * height

namespace Screen

/-- A dark screen. -/
def blank (width height : Nat) (hw : 0 < width) (hh : 0 < height) : Screen :=
  ⟨width, height, Array.replicate (width * height) false, hw, hh, by simp⟩

/-- The console's own screen. -/
def standard : Screen := blank 64 32 (by decide) (by decide)

/-- The complaint about a screen without cells. -/
def badSize : String := "framebuffer dimensions must be positive"

/-- A dark screen of a size that is given by integers, if it has a cell. -/
def ofSize? (width height : Int) : Option Screen :=
  if h : 0 < width ∧ 0 < height then
    some (blank width.toNat height.toNat (by omega) (by omega))
  else
    none

/-- The column that a horizontal coordinate wraps to. -/
def column (s : Screen) (x : Int) : Nat := (x % s.width).toNat

/-- The row that a vertical coordinate wraps to. -/
def row (s : Screen) (y : Int) : Nat := (y % s.height).toNat

/-- The position of a cell in row order. -/
def index (s : Screen) (x y : Int) : Nat := s.row y * s.width + s.column x

/-- Whether the cell at a pair of coordinates is lit. -/
def lit (s : Screen) (x y : Int) : Bool := s.cells.getD (s.index x y) false

/-- The screen with one cell flipped. -/
def flip (s : Screen) (x y : Int) : Screen :=
  { s with
    cells := s.cells.modify (s.index x y) not
    size_eq := by simp [s.size_eq] }

/-- The dark screen of the same size. -/
def clear (s : Screen) : Screen := blank s.width s.height s.width_pos s.height_pos

/-- The number of lit cells. -/
def litCount (s : Screen) : Nat := s.cells.count true

/-- The cells of one row, from the left. -/
def rowCells (s : Screen) (y : Nat) : List Bool :=
  (s.cells.extract (y * s.width) ((y + 1) * s.width)).toList

/-- All rows, from the top. -/
def rows (s : Screen) : List (List Bool) := (List.range s.height).map s.rowCells

/-! ### Sprites -/

/-- The columns of a sprite row whose bits are set; the highest bit is the left one. -/
def spriteColumns (bits : UInt8) : List Nat :=
  (List.range 8).filter fun c => bits.toNat.testBit (7 - c)

/-- The set bits of a sprite as offsets from its upper left corner, row after row. -/
def spriteOffsets (sprite : List UInt8) : List (Nat × Nat) :=
  sprite.zipIdx.flatMap fun (bits, r) => (spriteColumns bits).map fun c => (c, r)

/-- Flips one cell, and remembers whether it, or one before it, went dark. -/
def strike (state : Screen × Bool) (x y : Int) : Screen × Bool :=
  let dark := state.1.lit x y
  (state.1.flip x y, state.2 || dark)

/-- Draws a sprite at a corner.  The flag tells whether a lit cell went dark. -/
def draw (s : Screen) (x y : Int) (sprite : List UInt8) : Screen × Bool :=
  (spriteOffsets sprite).foldl
    (fun state offset => strike state (x + offset.1) (y + offset.2)) (s, false)

/-! ### Every pair of coordinates names a cell -/

theorem column_lt (s : Screen) (x : Int) : s.column x < s.width := by
  have hw := s.width_pos
  have h := Int.emod_lt_of_pos x (b := s.width) (by omega)
  have h' := Int.emod_nonneg x (b := (s.width : Int)) (by omega)
  simp only [column]
  omega

theorem row_lt (s : Screen) (y : Int) : s.row y < s.height := by
  have hh := s.height_pos
  have h := Int.emod_lt_of_pos y (b := s.height) (by omega)
  have h' := Int.emod_nonneg y (b := (s.height : Int)) (by omega)
  simp only [row]
  omega

theorem index_lt (s : Screen) (x y : Int) : s.index x y < s.cells.size := by
  have hx := s.column_lt x
  have hy := s.row_lt y
  have : (s.row y + 1) * s.width ≤ s.height * s.width := Nat.mul_le_mul_right _ hy
  rw [s.size_eq, Nat.mul_comm s.width, index]
  rw [Nat.add_mul] at this
  omega

@[simp] theorem width_flip (s : Screen) (x y : Int) : (s.flip x y).width = s.width := rfl

@[simp] theorem height_flip (s : Screen) (x y : Int) : (s.flip x y).height = s.height := rfl

/-- Flipping a cell changes that cell and no other. -/
theorem lit_flip (s : Screen) (x y u v : Int) :
    (s.flip x y).lit u v = (s.lit u v ^^ (s.index u v == s.index x y)) := by
  have hi : (s.flip x y).index u v = s.index u v := rfl
  have hlt := s.index_lt u v
  simp only [lit, hi]
  rw [Array.getD_eq_getD_getElem?, Array.getD_eq_getD_getElem?]
  simp only [flip, Array.getElem?_modify]
  by_cases h : s.index x y = s.index u v
  · rw [if_pos h, Array.getElem?_eq_getElem hlt]
    simp [h]
  · rw [if_neg h]
    have : (s.index u v == s.index x y) = false := by simpa using fun e => h e.symm
    simp [this]

theorem lit_blank (w h : Nat) (hw : 0 < w) (hh : 0 < h) (x y : Int) :
    (blank w h hw hh).lit x y = false := by
  have hlt := (blank w h hw hh).index_lt x y
  rw [lit, Array.getD_eq_getD_getElem?, Array.getElem?_eq_getElem hlt]
  simp [blank]

@[simp] theorem lit_clear (s : Screen) (x y : Int) : s.clear.lit x y = false :=
  lit_blank s.width s.height s.width_pos s.height_pos x y

/-- Two pairs of coordinates name the same cell exactly when they wrap to the same one. -/
theorem index_eq_index_iff (s : Screen) (x y u v : Int) :
    s.index x y = s.index u v ↔ s.column x = s.column u ∧ s.row y = s.row v := by
  have hx := s.column_lt x
  have hu := s.column_lt u
  constructor
  · intro h
    have hc : (s.index x y) % s.width = (s.index u v) % s.width := by rw [h]
    have hr : (s.index x y) / s.width = (s.index u v) / s.width := by rw [h]
    simp only [index, Nat.mul_comm _ s.width] at hc hr
    rw [Nat.mul_add_mod, Nat.mul_add_mod, Nat.mod_eq_of_lt hx, Nat.mod_eq_of_lt hu] at hc
    rw [Nat.mul_add_div s.width_pos, Nat.mul_add_div s.width_pos, Nat.div_eq_of_lt hx,
      Nat.div_eq_of_lt hu] at hr
    exact ⟨hc, by simpa using hr⟩
  · rintro ⟨hc, hr⟩
    rw [index, index, hc, hr]

end Screen

end Chip8
