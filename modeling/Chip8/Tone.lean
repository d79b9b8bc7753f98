/-
The tone that sounds while the sound timer runs.

A tone is a sine wave cut into samples of sixteen bits.  It is played over and over, so
it spans a whole number of periods, about a tenth of a second's worth.  Everything is
computed in floating-point numbers of 64 bits, from left to right.
-/
import Chip8.Numeric.Binary64

namespace Chip8

/-- Why a tone cannot be computed. -/
inductive ToneError where
  /-- A frequency that is not positive. -/
  | badFrequency
  /-- A number of samples or a sample that is no finite number. -/
  | notFinite (error : NotFinite)
  /-- There are no samples per second. -/
  | badRate
  /-- An angle that has no sine. -/
  | noSine
  /-- A whole number too large for a floating-point number. -/
  | tooLarge
  /-- A sample above sixteen bits. -/
  | aboveRange
  /-- A sample below sixteen bits. -/
  | belowRange
  /-- A sample that does not even fit a machine word. -/
  | beyondWord

namespace ToneError

/-- What went wrong. -/
def message : ToneError → String
  | badFrequency => "frequency must be positive"
  | notFinite error => error.message
  | badRate => "float division by zero"
  | noSine => "math domain error"
  | tooLarge => "int too large to convert to float"
  | aboveRange => "signed short integer is greater than maximum"
  | belowRange => "signed short integer is less than minimum"
  | beyondWord => "Python int too large to convert to C long"

end ToneError

namespace Tone

/-- The frequency of the console's tone. -/
def standardFrequency : Float := 441.0

/-- The amplitude of the console's tone. -/
def standardAmplitude : Int := 28000

/-- The ratio of a circle's circumference to its diameter. -/
def pi : Float := 3.141592653589793

/-- A whole number as a floating-point number. -/
def float (n : Int) : Except ToneError Float :=
  match Binary64.ofInt? n with
  | some x => .ok x
  | none => .error .tooLarge

/-- The whole number nearest to a number, but at least one. -/
def roundUpToOne (x : Float) : Except ToneError Nat :=
  match Binary64.round x with
  | .ok n => .ok (max 1 n).toNat
  | .error e => .error (.notFinite e)

/-- The number of samples in a tone. -/
def length (rate : Int) (frequency : Float) : Except ToneError Nat := do
  let periods ← roundUpToOne (frequency / 10.0)
  let samples ← float (rate * periods)
  roundUpToOne (samples / frequency)

/-- A number that fits a sample. -/
def checkSample (n : Int) : Except ToneError Int :=
  if n < -0x8000000000000000 ∨ 0x8000000000000000 ≤ n then .error .beyondWord
  else if n < -0x8000 then .error .belowRange
  else if 0x8000 ≤ n then .error .aboveRange
  else .ok n

/-- The sample with a number. -/
def sample (rate : Int) (frequency : Float) (amplitude : Int) (index : Nat) :
    Except ToneError Int := do
  let place ← float index
  let perSecond ← float rate
  if rate = 0 then throw .badRate
  let phase := 2.0 * pi * frequency * place / perSecond
  if phase.isInf then throw .noSine
  let height ← float amplitude
  match Binary64.truncate (height * phase.sin) with
  | .ok n => checkSample n
  | .error e => .error (.notFinite e)

/-- The samples from a number on, so many of them. -/
def samplesFrom (rate : Int) (frequency : Float) (amplitude : Int) (samples : Array Int)
    (index : Nat) : Nat → Except ToneError (Array Int)
  | 0 => .ok samples
  | count + 1 =>
    match sample rate frequency amplitude index with
    | .ok n => samplesFrom rate frequency amplitude (samples.push n) (index + 1) count
    | .error e => .error e

/-- The samples of a tone at so many samples a second. -/
def samples (rate : Int) (frequency : Float) (amplitude : Int) : Except ToneError (Array Int) :=
  if frequency <= 0.0 then .error .badFrequency
  else
    match length rate frequency with
    | .ok count => samplesFrom rate frequency amplitude #[] 0 count
    | .error e => .error e

/-- The two bytes of a sample, the lower one first. -/
def sampleBytes (n : Int) : List UInt8 := [UInt8.ofInt n, UInt8.ofInt (n / 256)]

/-- The bytes of a tone. -/
def bytes (samples : Array Int) : List UInt8 := samples.toList.flatMap sampleBytes

end Tone

end Chip8
