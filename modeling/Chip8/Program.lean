/-
Program images.

A program starts at a fixed address and may fill the rest of memory; an image that is
empty or longer than that is refused.
-/
import Chip8.Memory
import Chip8.Font

namespace Chip8

/-- The number of bytes of the console's memory. -/
def memorySize : Nat := 0x1000

/-- Where programs start. -/
def programStart : Nat := 0x200

/-- The size of the longest program. -/
def maxProgramSize : Nat := memorySize - programStart

/-- Whether an image can be a program. -/
def FitsProgramSpace (image : Array UInt8) : Prop :=
  1 ≤ image.size ∧ image.size ≤ maxProgramSize

instance (image : Array UInt8) : Decidable (FitsProgramSpace image) :=
  inferInstanceAs (Decidable (_ ∧ _))

/-- A program image with the name of the file it was read from. -/
structure Program where
  name : String
  image : Array UInt8

/-- An image that does not fit. -/
structure BadImage where
  size : Nat

/-- The complaint about an image that is put into memory. -/
def BadImage.message (e : BadImage) : String :=
  "ROM size " ++ toString e.size ++ " outside 1-" ++ toString maxProgramSize ++ " bytes"

/-- The complaint about an image that is read from a file or, without a name, from a stream. -/
def BadImage.fileMessage (e : BadImage) (name : String) : String :=
  "ROM " ++ (if name = "" then "<stream>" else name) ++ " is " ++ toString e.size
    ++ " bytes; expected 1-" ++ toString maxProgramSize

/-- The program in an image that was read, if the image fits. -/
def Program.ofImage (name : String) (image : Array UInt8) : Except BadImage Program :=
  if FitsProgramSpace image then .ok ⟨name, image⟩ else .error ⟨image.size⟩

/--
The memory a program finds: the digits at their place, the program at its start, and
zeros elsewhere.
-/
def Memory.loaded (image : Array UInt8) : Memory :=
  ((Memory.blank 0 memorySize).overlay Font.start Font.glyphs).overlay programStart image

end Chip8
