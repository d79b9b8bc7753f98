/-
The shortest decimal text of a number.

A number stands for all reals that are rounded to it: those between the points half way to its
neighbours, and these points themselves if its significand is even.  Of the decimal grids the
coarsest one with a point there gives the digits.  Of two such points the nearer one is taken,
and of two equally near ones the even one.

Numbers from a ten-thousandth up to sixteen digits are written by place, with a digit behind the
point at least; all others are written with an exponent of two digits at least.
-/
import Chip8.Numeric.Binary64

namespace Chip8.Binary64

-- Powers are the core library's, whatever else is imported.
attribute [local instance (2000)] instPowNat

/-- How far below a number its reals begin, in quarters of its last place.  Below a significand
that is as small as its length allows, the neighbour is only half as far away. -/
def reachBelow (significand : Nat) (exponent : Int) : Nat :=
  if significand = 2 ^ fractionBits ∧ -1074 < exponent then 1 else 2

/-- The point of a decimal grid that is rounded to a number, if there is one. -/
def onGrid? (significand : Nat) (exponent place : Int) : Option Nat :=
  -- A step of the grid and a quarter of the number's last place, in the same unit.
  let step := 10 ^ place.toNat * 2 ^ (2 - exponent).toNat
  let quarter := 10 ^ (-place).toNat * 2 ^ (exponent - 2).toNat
  let low := (4 * significand - reachBelow significand exponent) * quarter
  let high := (4 * significand + 2) * quarter
  let rounded (point : Nat) : Bool :=
    if significand % 2 = 0 then low ≤ point * step && point * step ≤ high
    else low < point * step && point * step < high
  let below := 4 * significand * quarter / step
  match rounded below, rounded (below + 1) with
  | true, true => some (roundQuotient (4 * significand * quarter) step)
  | true, false => some below
  | false, true => some (below + 1)
  | false, false => none

/-- The fewest digits that are rounded to a number, and the place of the last one. -/
def shortestDigits (significand : Nat) (exponent : Int) : Nat × Int :=
  if significand = 0 then (0, 0)
  else
    let found := (List.range 640).findSome? fun (k : Nat) =>
      let place : Int := 309 - k
      (onGrid? significand exponent place).map fun point => (point, place)
    found.getD (0, 0)

/-- Digits by place, so many of them before the point. -/
def byPlace (digits : List Char) (before : Int) : List Char :=
  if before ≤ 0 then '0' :: '.' :: (List.replicate (-before).toNat '0' ++ digits)
  else if before < digits.length then
    digits.take before.toNat ++ '.' :: digits.drop before.toNat
  else digits ++ List.replicate (before - digits.length).toNat '0' ++ ['.', '0']

/-- Digits with an exponent, the first of them before the point. -/
def byExponent (digits : List Char) (before : Int) : List Char :=
  let exponent := before - 1
  let places := Nat.toDigits 10 exponent.natAbs
  digits.take 1 ++ (if digits.length = 1 then [] else '.' :: digits.drop 1)
    ++ 'e' :: (if exponent < 0 then '-' else '+')
    :: (List.replicate (2 - places.length) '0' ++ places)

/-- The shortest text of a number. -/
def text (x : Float) : String :=
  match ofFloat x with
  | notANumber => "nan"
  | infinite negative => if negative then "-inf" else "inf"
  | finite negative significand exponent =>
    let (point, place) := shortestDigits significand exponent
    let digits := Nat.toDigits 10 point
    let before := digits.length + place
    let written :=
      if -4 < before ∧ before ≤ 16 then byPlace digits before else byExponent digits before
    String.ofList ((if negative then ['-'] else []) ++ written)

end Chip8.Binary64
