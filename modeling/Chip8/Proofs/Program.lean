/-
Programs and the memory they find.

An image is a program if it fits.  Then digits and program are laid over cleared memory
one after the other.  Both fit, so memory keeps its size, and as they do not overlap
every byte is that of the program, that of a digit or zero.
-/
import Chip8.Program
import Chip8.Proofs.Memory

namespace Chip8

theorem Program.ofImage_eq_ok_iff {name : String} {image : Array UInt8} {program : Program} :
    ofImage name image = .ok program ↔ FitsProgramSpace image ∧ program = ⟨name, image⟩ := by
  rw [ofImage]
  by_cases hfit : FitsProgramSpace image
  · rw [if_pos hfit, Except.ok.injEq, eq_comm]
    exact (and_iff_right hfit).symm
  · rw [if_neg hfit]
    constructor
    · intro h
      cases h
    · intro h
      exact absurd h.1 hfit

namespace Memory

variable {image : Array UInt8}

theorem byte_overlay_of_start_zero {m : Memory} {offset : Nat} (hs : m.start = 0)
    (h : offset + image.size ≤ m.size) (address : Int) :
    (m.overlay offset image).byte address
      = if offset ≤ address ∧ address < offset + image.size then
          image.getD (address - offset).toNat 0
        else m.byte address := by
  have hbyte := byte_overlay h address
  rw [hs, Int.natCast_zero, Int.zero_add, Int.sub_zero] at hbyte
  exact hbyte

/-- Cleared memory with the digits in it. -/
def withFont : Memory := (blank 0 memorySize).overlay Font.start Font.glyphs

theorem font_fits : Font.start + Font.glyphs.size ≤ (blank 0 memorySize).size := by
  rw [size_blank]
  decide

theorem size_withFont : withFont.size = memorySize := by
  rw [withFont, size_overlay font_fits, size_blank]

theorem program_fits (h : FitsProgramSpace image) :
    programStart + image.size ≤ withFont.size := by
  have := h.2
  rw [size_withFont]
  unfold maxProgramSize memorySize programStart at *
  omega

@[simp] theorem start_loaded (image : Array UInt8) : (loaded image).start = 0 := rfl

theorem size_loaded (h : FitsProgramSpace image) : (loaded image).size = memorySize := by
  rw [loaded, ← withFont, size_overlay (program_fits h), size_withFont]

/-- Every byte that a program finds. -/
theorem byte_loaded (h : FitsProgramSpace image) (address : Int) :
    (loaded image).byte address
      = if 0x200 ≤ address ∧ address < 0x200 + image.size then
          image.getD (address - 0x200).toNat 0
        else if 0x050 ≤ address ∧ address < 0x0A0 then
          Font.glyphs.getD (address - 0x050).toNat 0
        else 0 := by
  rw [loaded, ← withFont, byte_overlay_of_start_zero rfl (program_fits h), withFont,
    byte_overlay_of_start_zero rfl font_fits, byte_blank]
  rfl

end Memory

end Chip8
