/-
The built-in digits.

Each of the sixteen hexadecimal digits has a glyph four cells wide and five rows
high.  A glyph row is one byte of which only the upper half is set, so that it can be
drawn as a sprite row.  The glyphs lie behind each other at a fixed address, digit
zero first.
-/
namespace Chip8.Font

/-- Where the first glyph lies. -/
def start : Nat := 0x050

/-- The rows of one glyph. -/
def glyphSize : Nat := 5

/-- All glyphs, one line a digit. -/
def glyphs : Array UInt8 := #[
  0xF0, 0x90, 0x90, 0x90, 0xF0,
  0x20, 0x60, 0x20, 0x20, 0x70,
  0xF0, 0x10, 0xF0, 0x80, 0xF0,
  0xF0, 0x10, 0xF0, 0x10, 0xF0,
  0x90, 0x90, 0xF0, 0x10, 0x10,
  0xF0, 0x80, 0xF0, 0x10, 0xF0,
  0xF0, 0x80, 0xF0, 0x90, 0xF0,
  0xF0, 0x10, 0x20, 0x40, 0x40,
  0xF0, 0x90, 0xF0, 0x90, 0xF0,
  0xF0, 0x90, 0xF0, 0x10, 0xF0,
  0xF0, 0x90, 0xF0, 0x90, 0x90,
  0xE0, 0x90, 0xE0, 0x90, 0xE0,
  0xF0, 0x80, 0x80, 0x80, 0xF0,
  0xE0, 0x90, 0x90, 0x90, 0xE0,
  0xF0, 0x80, 0xF0, 0x80, 0xF0,
  0xF0, 0x80, 0xF0, 0x80, 0x80]

/-- The address of the glyph of a digit; a number stands for its last digit. -/
def glyphAddress (digit : Int) : Int := start + digit % 16 * glyphSize

theorem size_glyphs : glyphs.size = 16 * glyphSize := by decide

end Chip8.Font
