/-
A picture of the screen in colours.

A palette has a colour for dark cells and one for lit cells.  A picture shows every
cell as a square of pixels of one colour, so each pixel takes the colour of the cell
it lies over.  The pixels are stored row after row, three bytes each.
-/
import Chip8.Screen
import Chip8.Numeric.Shortest
import Chip8.Numeric.Place

namespace Chip8

/-- A colour by its shares of red, green and blue. -/
structure Colour where
  red : UInt8
  green : UInt8
  blue : UInt8
deriving DecidableEq, Repr

/-- The share of a colour as a host gives it. -/
inductive Channel where
  | whole (value : Int)
  | fraction (value : Float)

namespace Channel

/-- The whole part of a share. -/
def toInt : Channel → Except NotFinite Int
  | whole value => .ok value
  | fraction value => Binary64.truncate value

/-- A share as it was given. -/
def text : Channel → String
  | whole value => toString value
  | fraction value => Binary64.text value

end Channel

/-- Why a palette or a scale is refused. -/
inductive PictureError where
  /-- A palette that does not have two colours. -/
  | badPalette
  /-- A colour that does not have three shares from 0 to 255. -/
  | badColour (channels : List Channel)
  /-- A share that is no number. -/
  | notFinite (error : NotFinite)
  /-- A cell that would have no pixel. -/
  | badScale

namespace PictureError

/-- The shares of a colour; a single one is followed by a comma. -/
def showChannels : List Channel → String
  | [channel] => "(" ++ channel.text ++ ",)"
  | channels => "(" ++ String.intercalate ", " (channels.map Channel.text) ++ ")"

/-- The complaint about the palette or the scale. -/
def message : PictureError → String
  | badPalette => "palette needs a background and a foreground colour"
  | badColour channels => "invalid RGB colour: " ++ showChannels channels
  | notFinite error => error.message
  | badScale => "scale must be positive"

end PictureError

namespace Colour

/-- A share of a colour, or the complaint about the whole colour. -/
def share (channels : List Channel) (channel : Channel) : Except PictureError UInt8 :=
  match channel.toInt with
  | .error e => .error (.notFinite e)
  | .ok value =>
    if 0 ≤ value ∧ value ≤ 255 then .ok (UInt8.ofInt value) else .error (.badColour channels)

/-- The colour with three shares, each from 0 to 255; the first that is not is complained about. -/
def ofChannels (channels : List Channel) : Except PictureError Colour :=
  match channels with
  | [red, green, blue] => do
    let red ← share channels red
    let green ← share channels green
    let blue ← share channels blue
    return ⟨red, green, blue⟩
  | _ => .error (.badColour channels)

end Colour

/-- The colours of a picture. -/
structure Palette where
  background : Colour
  foreground : Colour

namespace Palette

/-- White on black. -/
def monochrome : Palette := ⟨⟨0, 0, 0⟩, ⟨255, 255, 255⟩⟩

/-- The palette with a list of colours, the background first. -/
def ofColours : List (List Channel) → Except PictureError Palette
  | [background, foreground] => do
    let background ← Colour.ofChannels background
    let foreground ← Colour.ofChannels foreground
    return ⟨background, foreground⟩
  | _ => .error .badPalette

/-- The colour of a cell. -/
def colour (p : Palette) (lit : Bool) : Colour := if lit then p.foreground else p.background

end Palette

/-- Pixels, row after row, three bytes each. -/
structure Picture where
  width : Nat
  height : Nat
  bytes : Array UInt8

namespace Picture

/-- The complaint about a missing host that should show a picture. -/
def noHost : String := "pygame is required to build surfaces"

/-- The share of a colour that is stored first, second or third. -/
def share (c : Colour) (k : Nat) : UInt8 :=
  if k = 0 then c.red else if k = 1 then c.green else c.blue

/-- The picture of a screen in which each cell is so many pixels wide and high. -/
def ofScreen (palette : Palette) (scale : Nat) (s : Screen) : Picture :=
  let width := s.width * scale
  let height := s.height * scale
  { width, height
    bytes := Array.ofFn fun (i : Fin (width * height * 3)) =>
      let x := i / 3 % width
      let y := i / 3 / width
      share (palette.colour (s.lit (x / scale : Nat) (y / scale : Nat))) (i % 3) }

/-- The picture of a screen at a scale that is given by an integer. -/
def render (palette : Palette) (scale : Int) (s : Screen) : Except PictureError Picture :=
  if scale ≤ 0 then .error .badScale else .ok (ofScreen palette scale.toNat s)

/-- The byte at a place counted from either end. -/
def byte? (p : Picture) (i : Int) : Option UInt8 := (place? p.bytes.size i).map (p.bytes[·])

/--
The colour of the pixel at a pair of coordinates.  The three bytes are looked up one
by one at the place where the coordinates put them, whatever row that is.
-/
def pixel? (p : Picture) (x y : Int) : Option Colour := do
  let offset := (y * p.width + x) * 3
  let red ← p.byte? offset
  let green ← p.byte? (offset + 1)
  let blue ← p.byte? (offset + 2)
  return ⟨red, green, blue⟩

end Picture

end Chip8
