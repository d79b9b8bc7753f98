/-
Numbers written in base sixteen.

Addresses, opcodes and registers are shown with a least number of characters.
Short numbers are filled up with zeros between the sign and the digits, long ones
keep all their digits, and the minus sign and the mark `0x` count towards the
width.  Which width, which case and whether there is a mark is the business of the
place that writes the number, so it is one `HexStyle` there.
-/
namespace Chip8

/-- How a number is written in base sixteen. -/
structure HexStyle where
  /-- The least number of characters, sign and mark included. -/
  width : Nat
  /-- Whether the digits above nine are capital letters. -/
  capital : Bool
  /-- Whether `0x` stands in front of the digits. -/
  marked : Bool

namespace HexStyle

/-- The digits of a natural number, the highest first. -/
def digits (style : HexStyle) (n : Nat) : List Char :=
  if style.capital then (Nat.toDigits 16 n).map Char.toUpper else Nat.toDigits 16 n

/-- What stands in front of the zeros and the digits. -/
def lead (style : HexStyle) (n : Int) : List Char :=
  (if n < 0 then ['-'] else []) ++ (if style.marked then ['0', 'x'] else [])

/-- The characters of a number: lead, zeros up to the width, digits. -/
def chars (style : HexStyle) (n : Int) : List Char :=
  let lead := style.lead n
  let digits := style.digits n.natAbs
  lead ++ List.replicate (style.width - (lead.length + digits.length)) '0' ++ digits

/-- The text of a number. -/
def write (style : HexStyle) (n : Int) : String :=
  String.ofList (style.chars n)

end HexStyle

/-- Two capital digits, as in a dump of registers. -/
def HexStyle.byte : HexStyle := ⟨2, true, false⟩

/-- Bytes as capital digit pairs with a blank between neighbours. -/
def hexBytes (bytes : List UInt8) : String :=
  String.intercalate " " (bytes.map fun b => HexStyle.byte.write b.toNat)

end Chip8
