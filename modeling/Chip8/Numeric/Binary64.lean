/-
Floating-point numbers of 64 bits as exact numbers.

A finite number is a whole number times a power of two.  Rounding to a whole number is
done on that exact value, and a value half way between two neighbours goes to the even one.
-/
namespace Chip8

-- Powers are the core library's, whatever else is imported.
attribute [local instance (2000)] instPowNat

/-- What the bits of a number say. -/
inductive Binary64 where
  | notANumber
  | infinite (negative : Bool)
  /-- The number `significand * 2 ^ exponent`, with its sign. -/
  | finite (negative : Bool) (significand : Nat) (exponent : Int)

/-- Why a number has no whole number near it. -/
inductive NotFinite where
  | notANumber
  | infinite

/-- The complaint about a number that has no whole part. -/
def NotFinite.message : NotFinite → String
  | notANumber => "cannot convert float NaN to integer"
  | infinite => "cannot convert float infinity to integer"

namespace Binary64

/-- The number of bits of a significand that are stored. -/
def fractionBits : Nat := 52

/-- The number of bits of the stored exponent. -/
def exponentBits : Nat := 11

/-- Reads the bits of a number. -/
def ofFloat (x : Float) : Binary64 :=
  let bits := x.toBits.toNat
  let negative := bits.testBit 63
  let exponent : Nat := bits / 2 ^ fractionBits % 2 ^ exponentBits
  let fraction : Nat := bits % 2 ^ fractionBits
  if exponent = 2 ^ exponentBits - 1 then
    if fraction = 0 then infinite negative else notANumber
  else if exponent = 0 then finite negative fraction (-1074)
  else finite negative (2 ^ fractionBits + fraction) ((exponent : Int) - 1075)

/-- The whole number nearest to a quotient; of two nearest ones, the even one. -/
def roundQuotient (numerator denominator : Nat) : Nat :=
  let quotient := numerator / denominator
  let rest := 2 * (numerator % denominator)
  if rest < denominator ∨ (rest = denominator ∧ quotient % 2 = 0) then quotient
  else quotient + 1

/-- A number with a sign. -/
def signed (negative : Bool) (n : Nat) : Int := if negative then -(n : Int) else n

/-- A significand times a power of two, as numerator and denominator. -/
def asQuotient (significand : Nat) (exponent : Int) : Nat × Nat :=
  (significand * 2 ^ exponent.toNat, 2 ^ (-exponent).toNat)

/-- The nearest whole number. -/
def round (x : Float) : Except NotFinite Int :=
  match ofFloat x with
  | notANumber => .error .notANumber
  | infinite _ => .error .infinite
  | finite negative significand exponent =>
    let (numerator, denominator) := asQuotient significand exponent
    .ok (signed negative (roundQuotient numerator denominator))

/-- The whole number next to a number on the side of zero. -/
def truncate (x : Float) : Except NotFinite Int :=
  match ofFloat x with
  | notANumber => .error .notANumber
  | infinite _ => .error .infinite
  | finite negative significand exponent =>
    let (numerator, denominator) := asQuotient significand exponent
    .ok (signed negative (numerator / denominator))

/--
The bits of a significand times a power of two.  A significand of full length begins
with a bit that is not stored; one that rounding has made a bit longer carries over into
the stored exponent.
-/
def bits (significand : Nat) (exponent : Int) : Nat :=
  if significand < 2 ^ fractionBits then significand
  else
    min ((exponent + 1075).toNat * 2 ^ fractionBits + (significand - 2 ^ fractionBits))
      ((2 ^ exponentBits - 1) * 2 ^ fractionBits)

/-- The exponent that gives a quotient a significand of full length, if it is not too small. -/
def exponentFor (numerator denominator : Nat) : Int :=
  let guess : Int := (numerator.log2 : Int) - denominator.log2 - 52
  let short :=
    numerator * 2 ^ (-guess).toNat < 2 ^ fractionBits * denominator * 2 ^ guess.toNat
  max (-1074) (if short then guess - 1 else guess)

/-- The number nearest to a quotient; infinity if the quotient is too large. -/
def nearest (numerator denominator : Nat) : Float :=
  let exponent := exponentFor numerator denominator
  let significand := roundQuotient (numerator * 2 ^ (-exponent).toNat)
    (denominator * 2 ^ exponent.toNat)
  Float.ofBits (bits significand exponent).toUInt64

/-- The number nearest to a natural number; infinity if it is too large. -/
def ofNat (n : Nat) : Float :=
  if n < 2 ^ (fractionBits + 1) then n.toUInt64.toFloat else nearest n 1

/-- The number nearest to an integer, unless the integer is too large. -/
def ofInt? (n : Int) : Option Float :=
  let x := ofNat n.natAbs
  if x.isInf then none else some (if n < 0 then -x else x)

end Binary64

end Chip8
