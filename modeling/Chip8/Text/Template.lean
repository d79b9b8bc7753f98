/-
Texts with places for values.

A place begins with a percent sign.  After it come flags, a least width, a precision
and the letter of a conversion: `d`, `i` and `u` write a number in base ten, `x` and
`X` in base sixteen, and `s` writes any value.  Two percent signs side by side stand for
one and take no value.  A template is filled only if it can be read as a whole,
every place finds a value of a fitting kind, and no value is left over.
-/
import Chip8.Text.Quoted

namespace Chip8

/-- A value for a place. -/
inductive TemplateValue where
  | text (value : String)
  | number (value : Int)
  | truth (value : Bool)
  | nothing

namespace TemplateValue

/-- The plain text of a value. -/
def plain : TemplateValue → String
  | text value => value
  | number value => toString value
  | truth true => "True"
  | truth false => "False"
  | nothing => "None"

/-- The text of a value in a list of values, where texts stand between quotes. -/
def shown : TemplateValue → String
  | text value => quoted value
  | value => value.plain

/-- The value as a number; a truth value counts as zero or one. -/
def number? : TemplateValue → Option Int
  | number value => some value
  | truth value => some (if value then 1 else 0)
  | text _ => none
  | nothing => none

/-- The text of a list of values; a single one is followed by a comma. -/
def shownAll : List TemplateValue → String
  | [value] => "(" ++ value.shown ++ ",)"
  | values => "(" ++ String.intercalate ", " (values.map shown) ++ ")"

end TemplateValue

/-- How a number or a text is written at a place. -/
inductive Conversion where
  | text
  | decimal
  | hexadecimal (capital : Bool)

/-- A place for a value. -/
structure Place where
  /-- Whether the filling comes after the value. -/
  left : Bool
  /-- Whether a plus sign stands before a number that is not negative. -/
  plus : Bool
  /-- Whether a blank stands there instead. -/
  blank : Bool
  /-- Whether digits in base sixteen are marked. -/
  mark : Bool
  /-- Whether numbers are filled up with zeros. -/
  zeros : Bool
  width : Nat
  precision : Option Nat
  conversion : Conversion

/-- A part of a template. -/
inductive TemplatePart where
  | char (c : Char)
  | place (p : Place)

namespace Template

/-- The flags at the start of a text, and the rest. -/
def flags (text : List Char) : List Char × List Char :=
  text.span (['-', '+', ' ', '#', '0'].contains ·)

/-- The number at the start of a text, zero if there is none, and the rest. -/
def number (text : List Char) : Nat × List Char :=
  let (digits, rest) := text.span Char.isDigit
  (digits.foldl (fun n c => 10 * n + (c.toNat - '0'.toNat)) 0, rest)

/-- The precision at the start of a text, and the rest. -/
def precision : List Char → Option Nat × List Char
  | '.' :: text =>
    let (n, rest) := number text
    (some n, rest)
  | text => (none, text)

/-- The text after a letter that once told the size of a number and is ignored. -/
def skipSize : List Char → List Char
  | 'h' :: rest => rest
  | 'l' :: rest => rest
  | 'L' :: rest => rest
  | text => text

/-- The conversion that a letter stands for. -/
def conversion? : Char → Option Conversion
  | 's' => some .text
  | 'd' => some .decimal
  | 'i' => some .decimal
  | 'u' => some .decimal
  | 'x' => some (.hexadecimal false)
  | 'X' => some (.hexadecimal true)
  | _ => none

/-- No place is wider than this. -/
def widthLimit : Nat := 0x80000000

/-- The place whose percent sign stands before a text, and the rest of the text. -/
def place? (text : List Char) : Option (Place × List Char) :=
  let (flags, text) := flags text
  let (width, text) := number text
  let (precision, text) := precision text
  match skipSize text with
  | [] => none
  | letter :: rest =>
    if widthLimit ≤ width ∨ widthLimit ≤ precision.getD 0 then none
    else (conversion? letter).map fun conversion =>
      ({ left := flags.contains '-'
         plus := flags.contains '+'
         blank := flags.contains ' '
         mark := flags.contains '#'
         zeros := flags.contains '0'
         width, precision, conversion }, rest)

/-- The part whose percent sign stands before a text, and the rest of the text. -/
def part? : List Char → Option (TemplatePart × List Char)
  | '%' :: rest => some (.char '%', rest)
  | text => (place? text).map fun (place, rest) => (.place place, rest)

/-- The parts of a template, given at least as much fuel as it has characters. -/
def partsWithin : Nat → List Char → Option (List TemplatePart)
  | _, [] => some []
  | 0, _ :: _ => none
  | fuel + 1, '%' :: text => do
    let (part, rest) ← part? text
    let parts ← partsWithin fuel rest
    return part :: parts
  | fuel + 1, c :: text => (partsWithin fuel text).map (.char c :: ·)

/-- The parts of a template, if every place in it can be read. -/
def parts? (text : List Char) : Option (List TemplatePart) := partsWithin text.length text

/-- A text filled up to the width of a place. -/
def pad (p : Place) (text : List Char) : List Char :=
  let filling := List.replicate (p.width - text.length) ' '
  if p.left then text ++ filling else filling ++ text

/-- What stands before the digits of a number. -/
def lead (p : Place) (n : Int) (mark : List Char) : List Char :=
  (if n < 0 then ['-'] else if p.plus then ['+'] else if p.blank then [' '] else [])
    ++ (if p.mark then mark else [])

/-- A number filled up with zeros to the precision, and then to the width of a place. -/
def padNumber (p : Place) (lead digits : List Char) : List Char :=
  let digits := List.replicate (p.precision.getD 0 - digits.length) '0' ++ digits
  if p.zeros && !p.left then
    lead ++ List.replicate (p.width - (lead.length + digits.length)) '0' ++ digits
  else
    pad p (lead ++ digits)

/-- A value at a place, if it is of a fitting kind. -/
def fillPlace? (p : Place) (value : TemplateValue) : Option (List Char) :=
  match p.conversion with
  | .text =>
    let text := value.plain.toList
    some (pad p ((p.precision.map text.take).getD text))
  | .decimal => value.number?.map fun n =>
    padNumber p (lead p n []) (Nat.toDigits 10 n.natAbs)
  | .hexadecimal capital => value.number?.map fun n =>
    padNumber p (lead p n ['0', if capital then 'X' else 'x'])
      ((HexStyle.mk 0 capital false).digits n.natAbs)

/-- The parts of a template with values in order, if each place takes one and none is left. -/
def fillParts? : List TemplatePart → List TemplateValue → Option (List Char)
  | [], [] => some []
  | [], _ :: _ => none
  | .char c :: parts, values => (fillParts? parts values).map (c :: ·)
  | .place _ :: _, [] => none
  | .place p :: parts, value :: values => do
    let filled ← fillPlace? p value
    let rest ← fillParts? parts values
    return filled ++ rest

/-- A template with values in its places. -/
def fill? (template : String) (values : List TemplateValue) : Option String := do
  let parts ← parts? template.toList
  let filled ← fillParts? parts values
  return String.ofList filled

end Template

end Chip8
