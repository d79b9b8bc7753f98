/-
Blank characters.

A character is blank if Unicode gives it the property White_Space or if it separates
files, groups, records or units.  Blanks at the ends of a text are often ignored.
-/
import Chip8.Text.Ranges

namespace Chip8

/-- The ranges of blank characters. -/
def blankRanges : List CodeRange := [
  (0x9, 0xD), (0x1C, 0x20), (0x85, 0x85), (0xA0, 0xA0), (0x1680, 0x1680), (0x2000, 0x200A),
  (0x2028, 0x2029), (0x202F, 0x202F), (0x205F, 0x205F), (0x3000, 0x3000)]

/-- Whether a character is blank. -/
def isBlank (c : Char) : Bool := inRanges c blankRanges

/-- The text without the characters of a class at its ends. -/
def trim (ignored : Char → Bool) (text : List Char) : List Char :=
  ((text.dropWhile ignored).reverse.dropWhile ignored).reverse

end Chip8
