/-
The fields of an opcode.

An opcode is sixteen bits.  The table is also asked about numbers that are not, so an
opcode is any integer here and a field is what its last sixteen bits say.
-/
namespace Chip8

-- Powers are the core library's, whatever else is imported.
attribute [local instance (2000)] instPowNat

/-- Four bits can be written as numerals; the fact is in full, to read the same everywhere. -/
@[instance]
theorem neZero_sixteen : @NeZero Nat Zero.ofOfNat0 16 := ⟨by decide⟩

/-- An encoded instruction. -/
abbrev Opcode := Int

namespace Opcode

/-- The group of four bits with a number, counted from the lowest. -/
def nibble (opcode : Opcode) (k : Nat) : Fin 16 :=
  ⟨(opcode / 16 ^ k % 16).toNat, by omega⟩

/-- The highest four bits, which pick the group of instructions. -/
def primary (opcode : Opcode) : Fin 16 := opcode.nibble 3

/-- The register named first. -/
def x (opcode : Opcode) : Fin 16 := opcode.nibble 2

/-- The register named second. -/
def y (opcode : Opcode) : Fin 16 := opcode.nibble 1

/-- The lowest four bits. -/
def n (opcode : Opcode) : Nat := (opcode.nibble 0).val

/-- The lowest eight bits. -/
def nn (opcode : Opcode) : UInt8 := UInt8.ofNat (opcode % 256).toNat

/-- The lowest twelve bits, an address. -/
def nnn (opcode : Opcode) : Nat := (opcode % 4096).toNat

end Opcode

end Chip8
