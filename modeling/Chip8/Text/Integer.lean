/-
Whole numbers as users write them.

A number is a run of decimal digits of any scripts with at most one sign in front.
Single underscores may stand between digits, and blanks around the whole are ignored,
but not the separators of files, groups, records and units.  Numbers beyond a limit of
digits are not read.
-/
import Chip8.Text.Blank
import Chip8.Text.Digit

namespace Chip8

/-- No number has more digits than this. -/
def digitLimit : Nat := 4300

/-- Whether a character is ignored around a number. -/
def isNumberBlank (c : Char) : Bool := isBlank c && !(0x1C ≤ c.toNat && c.toNat ≤ 0x1F)

/-- The digits that follow a digit: each may have one underscore before it. -/
def digitsAfter : List Char → Option (List Nat)
  | [] => some []
  | '_' :: c :: rest => do
    let digit ← digitValue? c
    let digits ← digitsAfter rest
    return digit :: digits
  | c :: rest => do
    let digit ← digitValue? c
    let digits ← digitsAfter rest
    return digit :: digits

/-- The digits of a number without a sign. -/
def numberDigits? : List Char → Option (List Nat)
  | [] => none
  | c :: rest => do
    let digit ← digitValue? c
    let digits ← digitsAfter rest
    if digitLimit ≤ digits.length then none else return digit :: digits

/-- A natural number without a sign. -/
def readNatural? (text : List Char) : Option Nat :=
  (numberDigits? text).map fun digits => digits.foldl (fun n digit => 10 * n + digit) 0

/-- A whole number as a user writes it. -/
def readInteger? (text : String) : Option Int :=
  match trim isNumberBlank text.toList with
  | '-' :: rest => (readNatural? rest).map fun n => -(n : Int)
  | '+' :: rest => (readNatural? rest).map fun n => (n : Int)
  | rest => (readNatural? rest).map fun n => (n : Int)

end Chip8
