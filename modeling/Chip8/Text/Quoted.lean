/-
Texts between quotes.

A text is put between single quotes, or between double quotes if it holds single ones
and no double ones.  The quote that was chosen and the backslash are written with a
backslash before them, the line feed, the carriage return and the tabulator by a
letter, and every other character that cannot be shown by its code point.
-/
import Chip8.Text.Hex
import Chip8.Text.Printable

namespace Chip8

/-- The quote for a text. -/
def quoteFor (text : List Char) : Char :=
  if text.contains '\'' && !text.contains '"' then '"' else '\''

/-- A code point after a backslash, a letter and as many digits as the letter asks for. -/
def codeEscape (letter : Char) (digits : Nat) (c : Char) : List Char :=
  '\\' :: letter :: (HexStyle.mk digits false false).chars c.toNat

/-- One character of a text between quotes. -/
def quoteChar (quote c : Char) : List Char :=
  if c = quote ∨ c = '\\' then ['\\', c]
  else if c = '\n' then ['\\', 'n']
  else if c = '\r' then ['\\', 'r']
  else if c = '\t' then ['\\', 't']
  else if isPrintable c then [c]
  else if c.toNat < 0x100 then codeEscape 'x' 2 c
  else if c.toNat < 0x10000 then codeEscape 'u' 4 c
  else codeEscape 'U' 8 c

/-- The text between quotes. -/
def quoted (text : String) : String :=
  let quote := quoteFor text.toList
  String.ofList (quote :: text.toList.flatMap (quoteChar quote) ++ [quote])

end Chip8
