/-
What stops the processor.

Each cause is a constructor that carries what its message needs.
-/
import Chip8.Memory
import Chip8.Opcode

namespace Chip8

/-- Why a step did not succeed. -/
inductive Fault where
  /-- An earlier fault has stopped the processor. -/
  | halted
  /-- An address outside memory. -/
  | access (error : AccessError)
  /-- An opcode without a meaning, and where it stands. -/
  | illegal (opcode : Opcode) (address : Int)
  /-- A return at an address, with an empty call stack. -/
  | emptyStack (address : Int)
  /-- A register that should name a key holds a number that names none. -/
  | noSuchKey (key : UInt8)
  /-- An instruction whose word names no operation. -/
  | noSuchOperation (word : String)

namespace Fault

/-- An opcode is shown by four digits. -/
def opcodeStyle : HexStyle := ⟨4, true, false⟩

/-- The address of an instruction is shown by three digits and a mark. -/
def addressStyle : HexStyle := ⟨5, false, true⟩

/-- A key number is shown by two digits and a mark. -/
def keyStyle : HexStyle := ⟨4, false, true⟩

/-- The message of a fault. -/
def message : Fault → String
  | halted => "interpreter halted by an earlier fault"
  | access error => error.message
  | illegal opcode address =>
    "illegal instruction " ++ opcodeStyle.write opcode ++ " at " ++ addressStyle.write address
  | emptyStack address =>
    "return at " ++ addressStyle.write address ++ " with an empty call stack"
  | noSuchKey key => "key index " ++ keyStyle.write key.toNat ++ " out of range"
  | noSuchOperation word => "handler '" ++ word ++ "' not implemented"

end Fault

end Chip8
