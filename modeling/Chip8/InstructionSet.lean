/-
The console's own instructions.

`0nnn` was once a call into the machine code of the host; here it is a plain
subroutine call.
-/
import Chip8.DecodeTable

namespace Chip8

/-- All instructions of the console. -/
def instructionSet : List Instruction := [
  ⟨0x0, "CLS", .operation .clearScreen, some 0x00E0⟩,
  ⟨0x0, "RET", .operation .returnFromCall, some 0x00EE⟩,
  ⟨0x0, "SYS", .operation .call, none⟩,
  ⟨0x1, "JP", .operation .jump, none⟩,
  ⟨0x2, "CALL", .operation .call, none⟩,
  ⟨0x3, "SE", .operation .skipIfEqualImmediate, none⟩,
  ⟨0x4, "SNE", .operation .skipUnlessEqualImmediate, none⟩,
  ⟨0x5, "SE", .operation .skipIfEqual, none⟩,
  ⟨0x6, "LD", .operation .loadImmediate, none⟩,
  ⟨0x7, "ADD", .operation .addImmediate, none⟩,
  ⟨0x8, "LD", .operation .load, some 0x0⟩,
  ⟨0x8, "OR", .operation .or, some 0x1⟩,
  ⟨0x8, "AND", .operation .and, some 0x2⟩,
  ⟨0x8, "XOR", .operation .xor, some 0x3⟩,
  ⟨0x8, "ADD", .operation .add, some 0x4⟩,
  ⟨0x8, "SUB", .operation .subtract, some 0x5⟩,
  ⟨0x8, "SHR", .operation .shiftRight, some 0x6⟩,
  ⟨0x8, "SUBN", .operation .subtractReverse, some 0x7⟩,
  ⟨0x8, "SHL", .operation .shiftLeft, some 0xE⟩,
  ⟨0x9, "SNE", .operation .skipUnlessEqual, none⟩,
  ⟨0xA, "LDI", .operation .loadIndex, none⟩,
  ⟨0xB, "JPV0", .operation .jumpOffset, none⟩,
  ⟨0xC, "RND", .operation .random, none⟩,
  ⟨0xD, "DRW", .operation .draw, none⟩,
  ⟨0xE, "SKP", .operation .skipIfKey, some 0x9E⟩,
  ⟨0xE, "SKNP", .operation .skipUnlessKey, some 0xA1⟩,
  ⟨0xF, "LDDT", .operation .readDelay, some 0x07⟩,
  ⟨0xF, "LDK", .operation .waitKey, some 0x0A⟩,
  ⟨0xF, "STDT", .operation .setDelay, some 0x15⟩,
  ⟨0xF, "STST", .operation .setSound, some 0x18⟩,
  ⟨0xF, "ADDI", .operation .addIndex, some 0x1E⟩,
  ⟨0xF, "LDF", .operation .loadGlyph, some 0x29⟩,
  ⟨0xF, "BCD", .operation .storeDigits, some 0x33⟩,
  ⟨0xF, "STR", .operation .storeRegisters, some 0x55⟩,
  ⟨0xF, "LDR", .operation .loadRegisters, some 0x65⟩]

/-- The table of the console's own instructions. -/
def DecodeTable.standard : DecodeTable :=
  (⟨Selectors.standard, instructionSet⟩ : TableBuilder).table

/-- Nothing in the list is refused, so registering it gives the standard table. -/
theorem DecodeTable.build_instructionSet : build instructionSet = .ok standard := rfl

end Chip8
