/-
What an opcode can mean.

An `Operation` is something the processor can do.  An `Instruction` binds an operation
to a place in the decode table: to a primary field and, where one primary field covers
several instructions, to a key.  An instruction names its operation by a word; a word
that no operation has is kept as it is and only matters when the instruction runs.
-/
namespace Chip8

/-- Everything the processor can be told to do. -/
inductive Operation where
  | clearScreen
  | returnFromCall
  | call
  | jump
  | skipIfEqualImmediate
  | skipUnlessEqualImmediate
  | skipIfEqual
  | skipUnlessEqual
  | loadImmediate
  | addImmediate
  | load
  | or
  | and
  | xor
  | add
  | subtract
  | subtractReverse
  | shiftRight
  | shiftLeft
  | loadIndex
  | jumpOffset
  | random
  | draw
  | skipIfKey
  | skipUnlessKey
  | readDelay
  | waitKey
  | setDelay
  | setSound
  | addIndex
  | loadGlyph
  | storeDigits
  | storeRegisters
  | loadRegisters
deriving DecidableEq, Repr

namespace Operation

/-- The word by which an instruction names the operation. -/
def word : Operation → String
  | clearScreen => "op_cls"
  | returnFromCall => "op_ret"
  | call => "op_call"
  | jump => "op_jp"
  | skipIfEqualImmediate => "op_se_imm"
  | skipUnlessEqualImmediate => "op_sne_imm"
  | skipIfEqual => "op_se_reg"
  | skipUnlessEqual => "op_sne_reg"
  | loadImmediate => "op_ld_imm"
  | addImmediate => "op_add_imm"
  | load => "op_ld_reg"
  | or => "op_or"
  | and => "op_and"
  | xor => "op_xor"
  | add => "op_add_reg"
  | subtract => "op_sub"
  | subtractReverse => "op_subn"
  | shiftRight => "op_shr"
  | shiftLeft => "op_shl"
  | loadIndex => "op_ld_index"
  | jumpOffset => "op_jp_offset"
  | random => "op_rnd"
  | draw => "op_drw"
  | skipIfKey => "op_skp"
  | skipUnlessKey => "op_sknp"
  | readDelay => "op_ld_from_delay"
  | waitKey => "op_wait_key"
  | setDelay => "op_ld_delay"
  | setSound => "op_ld_sound"
  | addIndex => "op_add_index"
  | loadGlyph => "op_ld_glyph"
  | storeDigits => "op_bcd"
  | storeRegisters => "op_store_registers"
  | loadRegisters => "op_load_registers"

/-- All operations. -/
def all : List Operation :=
  [clearScreen, returnFromCall, call, jump, skipIfEqualImmediate, skipUnlessEqualImmediate,
    skipIfEqual, skipUnlessEqual, loadImmediate, addImmediate, load, or, and, xor, add,
    subtract, subtractReverse, shiftRight, shiftLeft, loadIndex, jumpOffset, random, draw,
    skipIfKey, skipUnlessKey, readDelay, waitKey, setDelay, setSound, addIndex, loadGlyph,
    storeDigits, storeRegisters, loadRegisters]

theorem mem_all (op : Operation) : op ∈ all := by cases op <;> decide

end Operation

/-- What the word of an instruction stands for. -/
inductive Routine where
  | operation (op : Operation)
  | unknown (word : String)
deriving DecidableEq, Repr

namespace Routine

/-- The routine that a word stands for. -/
def ofWord (word : String) : Routine :=
  match Operation.all.find? fun op => op.word == word with
  | some op => operation op
  | none => unknown word

/-- The word of a routine. -/
def word : Routine → String
  | operation op => op.word
  | unknown word => word

end Routine

/-- An instruction and its place in the decode table. -/
structure Instruction where
  /-- The primary field of its opcodes. -/
  primary : Fin 16
  mnemonic : String
  routine : Routine
  /-- The value of the field that tells it from its neighbours, or none if it takes all that is
  left of its primary field. -/
  key : Option Int
deriving DecidableEq, Repr

namespace Instruction

/-- A number that is no primary field. -/
structure BadPrimary where
  primary : Int

/-- The complaint names the number. -/
def BadPrimary.message (e : BadPrimary) : String :=
  "primary nibble out of range: " ++ toString e.primary

/-- The instruction with a primary field that is given by an integer. -/
def ofParts (primary : Int) (mnemonic word : String) (key : Option Int) :
    Except BadPrimary Instruction :=
  if h : 0 ≤ primary ∧ primary < 16 then
    .ok ⟨⟨primary.toNat, by omega⟩, mnemonic, Routine.ofWord word, key⟩
  else
    .error ⟨primary⟩

end Instruction

end Chip8
