/-
Which opcodes mean what.

`Opcode.Encodes` says of each operation which opcodes stand for it, and
`Opcode.Undefined` which opcodes stand for none, both by the digits of the opcode
alone.  The standard table answers exactly so: it finds an instruction of the operation
an opcode encodes, and finds nothing for an undefined one.

The table looks an opcode up by its primary field and one key.  Once the key of an
opcode is known as a number, the search is a computation; so each lemma first rewrites
the key and then lets the search run.
-/
import Chip8.InstructionSet
import Mathlib.Tactic.FinCases
import Mathlib.Data.Fintype.Basic

namespace Chip8

/-- Whether an opcode stands for an operation. -/
def Opcode.Encodes (opcode : Opcode) : Operation → Prop
  | .clearScreen => opcode % 0x10000 = 0x00E0
  | .returnFromCall => opcode % 0x10000 = 0x00EE
  | .call =>
    opcode.primary = 0x2 ∨
      (opcode.primary = 0x0 ∧ opcode % 0x10000 ≠ 0x00E0 ∧ opcode % 0x10000 ≠ 0x00EE)
  | .jump => opcode.primary = 0x1
  | .skipIfEqualImmediate => opcode.primary = 0x3
  | .skipUnlessEqualImmediate => opcode.primary = 0x4
  | .skipIfEqual => opcode.primary = 0x5
  | .skipUnlessEqual => opcode.primary = 0x9
  | .loadImmediate => opcode.primary = 0x6
  | .addImmediate => opcode.primary = 0x7
  | .load => opcode.primary = 0x8 ∧ opcode.n = 0x0
  | .or => opcode.primary = 0x8 ∧ opcode.n = 0x1
  | .and => opcode.primary = 0x8 ∧ opcode.n = 0x2
  | .xor => opcode.primary = 0x8 ∧ opcode.n = 0x3
  | .add => opcode.primary = 0x8 ∧ opcode.n = 0x4
  | .subtract => opcode.primary = 0x8 ∧ opcode.n = 0x5
  | .shiftRight => opcode.primary = 0x8 ∧ opcode.n = 0x6
  | .subtractReverse => opcode.primary = 0x8 ∧ opcode.n = 0x7
  | .shiftLeft => opcode.primary = 0x8 ∧ opcode.n = 0xE
  | .loadIndex => opcode.primary = 0xA
  | .jumpOffset => opcode.primary = 0xB
  | .random => opcode.primary = 0xC
  | .draw => opcode.primary = 0xD
  | .skipIfKey => opcode.primary = 0xE ∧ opcode.nn = 0x9E
  | .skipUnlessKey => opcode.primary = 0xE ∧ opcode.nn = 0xA1
  | .readDelay => opcode.primary = 0xF ∧ opcode.nn = 0x07
  | .waitKey => opcode.primary = 0xF ∧ opcode.nn = 0x0A
  | .setDelay => opcode.primary = 0xF ∧ opcode.nn = 0x15
  | .setSound => opcode.primary = 0xF ∧ opcode.nn = 0x18
  | .addIndex => opcode.primary = 0xF ∧ opcode.nn = 0x1E
  | .loadGlyph => opcode.primary = 0xF ∧ opcode.nn = 0x29
  | .storeDigits => opcode.primary = 0xF ∧ opcode.nn = 0x33
  | .storeRegisters => opcode.primary = 0xF ∧ opcode.nn = 0x55
  | .loadRegisters => opcode.primary = 0xF ∧ opcode.nn = 0x65

instance (opcode : Opcode) : (op : Operation) → Decidable (opcode.Encodes op)
  | .clearScreen | .returnFromCall => inferInstanceAs (Decidable (opcode % 0x10000 = _))
  | .call => inferInstanceAs (Decidable (_ ∨ _))
  | .jump | .skipIfEqualImmediate | .skipUnlessEqualImmediate | .skipIfEqual | .skipUnlessEqual
  | .loadImmediate | .addImmediate | .loadIndex | .jumpOffset | .random | .draw =>
    inferInstanceAs (Decidable (opcode.primary = _))
  | .load | .or | .and | .xor | .add | .subtract | .shiftRight | .subtractReverse | .shiftLeft
  | .skipIfKey | .skipUnlessKey | .readDelay | .waitKey | .setDelay | .setSound | .addIndex
  | .loadGlyph | .storeDigits | .storeRegisters | .loadRegisters =>
    inferInstanceAs (Decidable (opcode.primary = _ ∧ _))

/-- Whether an opcode stands for no operation. -/
def Opcode.Undefined (opcode : Opcode) : Prop :=
  (opcode.primary = 0x8 ∧ (0x8 ≤ opcode.n ∧ opcode.n ≤ 0xD ∨ opcode.n = 0xF)) ∨
  (opcode.primary = 0xE ∧ opcode.nn ∉ [0x9E, 0xA1]) ∨
  (opcode.primary = 0xF ∧
    opcode.nn ∉ [0x07, 0x0A, 0x15, 0x18, 0x1E, 0x29, 0x33, 0x55, 0x65])

instance (opcode : Opcode) : Decidable opcode.Undefined :=
  inferInstanceAs (Decidable (_ ∨ _ ∨ _))

namespace Opcode

/-! ### The key of an opcode -/

/-- The field by which the console tells apart the opcodes of a primary field. -/
def key (opcode : Opcode) : Option Int :=
  ((Selectors.standard opcode.primary).getD .none).extract opcode

theorem n_eq_emod (opcode : Opcode) : (opcode.n : Int) = (opcode : Int) % 16 := by
  show (((opcode / 1 % 16 : Int).toNat : Nat) : Int) = _
  rw [Int.toNat_of_nonneg (Int.emod_nonneg _ (by decide)), Int.ediv_one]

theorem nn_eq_emod (opcode : Opcode) : (opcode.nn.toNat : Int) = (opcode : Int) % 256 := by
  have hlt : (opcode : Int) % 256 < 256 := Int.emod_lt_of_pos _ (by decide)
  have hnonneg : 0 ≤ (opcode : Int) % 256 := Int.emod_nonneg _ (by decide)
  rw [nn, UInt8.toNat_ofNat_of_lt' ?_, Int.toNat_of_nonneg hnonneg]
  show ((opcode : Int) % 256).toNat < 256
  omega

theorem n_lt (opcode : Opcode) : opcode.n < 16 := (opcode.nibble 0).isLt

variable {opcode : Opcode}

theorem key_of_word (h : opcode.primary = 0x0) : opcode.key = some ((opcode : Int) % 0x10000) := by
  rw [key, h]
  rfl

theorem key_of_lowNibble (h : opcode.primary = 0x8) : opcode.key = some (opcode.n : Int) := by
  rw [key, h, n_eq_emod]
  rfl

theorem key_of_lowByte (h : opcode.primary = 0xE ∨ opcode.primary = 0xF) :
    opcode.key = some (opcode.nn.toNat : Int) := by
  rw [nn_eq_emod]
  rcases h with h | h
  · rw [key, h]
    rfl
  · rw [key, h]
    rfl

/-- The two opcodes told apart by all their bits have the primary field of calls. -/
theorem primary_of_word {k : Int} (hk : k < 0x1000) (h : (opcode : Int) % 0x10000 = k) :
    opcode.primary = 0x0 := by
  refine Fin.ext ?_
  show (opcode / 16 ^ 3 % 16 : Int).toNat = 0
  unfold Opcode at *
  omega

/-! ### Every opcode is encoded or undefined -/

theorem encodes_or_undefined (opcode : Opcode) :
    opcode.Undefined ∨ ∃ op, opcode.Encodes op := by
  obtain ⟨k, hk⟩ : ∃ k, opcode.primary = k := ⟨_, rfl⟩
  fin_cases k
  · by_cases hcls : (opcode : Int) % 0x10000 = 0x00E0
    · exact .inr ⟨.clearScreen, hcls⟩
    by_cases hret : (opcode : Int) % 0x10000 = 0x00EE
    · exact .inr ⟨.returnFromCall, hret⟩
    exact .inr ⟨.call, .inr ⟨hk, hcls, hret⟩⟩
  · exact .inr ⟨.jump, hk⟩
  · exact .inr ⟨.call, .inl hk⟩
  · exact .inr ⟨.skipIfEqualImmediate, hk⟩
  · exact .inr ⟨.skipUnlessEqualImmediate, hk⟩
  · exact .inr ⟨.skipIfEqual, hk⟩
  · exact .inr ⟨.loadImmediate, hk⟩
  · exact .inr ⟨.addImmediate, hk⟩
  · have hn := n_lt opcode
    by_cases hu : 0x8 ≤ opcode.n ∧ opcode.n ≤ 0xD ∨ opcode.n = 0xF
    · exact .inl (.inl ⟨hk, hu⟩)
    obtain h | h | h | h | h | h | h | h | h : opcode.n = 0x0 ∨ opcode.n = 0x1 ∨ opcode.n = 0x2
        ∨ opcode.n = 0x3 ∨ opcode.n = 0x4 ∨ opcode.n = 0x5 ∨ opcode.n = 0x6 ∨ opcode.n = 0x7
        ∨ opcode.n = 0xE := by omega
    · exact .inr ⟨.load, hk, h⟩
    · exact .inr ⟨.or, hk, h⟩
    · exact .inr ⟨.and, hk, h⟩
    · exact .inr ⟨.xor, hk, h⟩
    · exact .inr ⟨.add, hk, h⟩
    · exact .inr ⟨.subtract, hk, h⟩
    · exact .inr ⟨.shiftRight, hk, h⟩
    · exact .inr ⟨.subtractReverse, hk, h⟩
    · exact .inr ⟨.shiftLeft, hk, h⟩
  · exact .inr ⟨.skipUnlessEqual, hk⟩
  · exact .inr ⟨.loadIndex, hk⟩
  · exact .inr ⟨.jumpOffset, hk⟩
  · exact .inr ⟨.random, hk⟩
  · exact .inr ⟨.draw, hk⟩
  · by_cases hm : opcode.nn ∈ [0x9E, 0xA1]
    · simp only [List.mem_cons, List.not_mem_nil, or_false] at hm
      obtain h | h := hm
      · exact .inr ⟨.skipIfKey, hk, h⟩
      · exact .inr ⟨.skipUnlessKey, hk, h⟩
    · exact .inl (.inr (.inl ⟨hk, hm⟩))
  · by_cases hm : opcode.nn ∈ [0x07, 0x0A, 0x15, 0x18, 0x1E, 0x29, 0x33, 0x55, 0x65]
    · simp only [List.mem_cons, List.not_mem_nil, or_false] at hm
      obtain h | h | h | h | h | h | h | h | h := hm
      · exact .inr ⟨.readDelay, hk, h⟩
      · exact .inr ⟨.waitKey, hk, h⟩
      · exact .inr ⟨.setDelay, hk, h⟩
      · exact .inr ⟨.setSound, hk, h⟩
      · exact .inr ⟨.addIndex, hk, h⟩
      · exact .inr ⟨.loadGlyph, hk, h⟩
      · exact .inr ⟨.storeDigits, hk, h⟩
      · exact .inr ⟨.storeRegisters, hk, h⟩
      · exact .inr ⟨.loadRegisters, hk, h⟩
    · exact .inl (.inr (.inr ⟨hk, hm⟩))

end Opcode

namespace DecodeTable

/-! ### The standard table -/

/-- The console's instruction with a primary field and a key. -/
def standardInstruction? (primary : Fin 16) (key : Option Int) : Option Instruction :=
  instructionSet.find? fun i => i.primary == primary && i.key == key

theorem get_standard (k : Fin 16) :
    standard.get k = some ⟨(Selectors.standard k).getD .none,
      instructionSet.filter fun i => i.primary == k⟩ := by
  fin_cases k <;> rfl

theorem lookup_standard (opcode : Opcode) :
    standard.lookup opcode
      = (standardInstruction? opcode.primary opcode.key).or
          (standardInstruction? opcode.primary none) := by
  unfold lookup
  rw [show standard[opcode.primary] = _ from get_standard opcode.primary]
  simp only [DecodeGroup.lookup, DecodeGroup.entry?, List.find?_filter, Bool.decide_and,
    Bool.decide_eq_true]
  rfl

/-- The standard table finds an instruction of the operation that an opcode encodes. -/
theorem lookup_of_encodes {opcode : Opcode} {op : Operation} (h : opcode.Encodes op) :
    ∃ i, standard.lookup opcode = some i ∧ i.routine = .operation op := by
  rw [lookup_standard]
  cases op with
  | clearScreen | returnFromCall =>
    have hp := Opcode.primary_of_word (by decide) h
    rw [Opcode.key_of_word hp, hp, show (opcode : Int) % 0x10000 = _ from h]
    exact ⟨_, rfl, rfl⟩
  | call =>
    rcases h with h | ⟨hp, hcls, hret⟩
    · rw [Opcode.key, h]
      exact ⟨_, rfl, rfl⟩
    · have hnone : standardInstruction? 0x0 (some ((opcode : Int) % 0x10000)) = none := by
        simp [standardInstruction?, instructionSet, hcls.symm, hret.symm]
      rw [Opcode.key_of_word hp, hp, hnone]
      exact ⟨_, rfl, rfl⟩
  | load | or | and | xor | add | subtract | shiftRight | subtractReverse | shiftLeft =>
    rw [Opcode.key_of_lowNibble h.1, h.1, h.2]
    exact ⟨_, rfl, rfl⟩
  | skipIfKey | skipUnlessKey =>
    rw [Opcode.key_of_lowByte (.inl h.1), h.1, h.2]
    exact ⟨_, rfl, rfl⟩
  | readDelay | waitKey | setDelay | setSound | addIndex | loadGlyph | storeDigits
  | storeRegisters | loadRegisters =>
    rw [Opcode.key_of_lowByte (.inr h.1), h.1, h.2]
    exact ⟨_, rfl, rfl⟩
  | jump | skipIfEqualImmediate | skipUnlessEqualImmediate | skipIfEqual | skipUnlessEqual
  | loadImmediate | addImmediate | loadIndex | jumpOffset | random | draw =>
    rw [Opcode.key, show opcode.primary = _ from h]
    exact ⟨_, rfl, rfl⟩

/-- An opcode finds nothing if every instruction of its primary field has another key. -/
theorem lookup_of_key_not_mem {opcode : Opcode} {k : Int} (keys : List Int)
    (hkey : opcode.key = some k)
    (hkeys : ∀ i ∈ instructionSet, i.primary = opcode.primary → ∃ key ∈ keys, i.key = some key)
    (hk : k ∉ keys) : standard.lookup opcode = none := by
  rw [lookup_standard, hkey, Option.or_eq_none_iff]
  constructor
  · refine List.find?_eq_none.mpr fun i hi hmatch => ?_
    simp only [Bool.and_eq_true, beq_iff_eq] at hmatch
    obtain ⟨key, hmem, he⟩ := hkeys i hi hmatch.1
    rw [he, Option.some.injEq] at hmatch
    exact hk (hmatch.2 ▸ hmem)
  · refine List.find?_eq_none.mpr fun i hi hmatch => ?_
    simp only [Bool.and_eq_true, beq_iff_eq] at hmatch
    obtain ⟨key, -, he⟩ := hkeys i hi hmatch.1
    rw [he] at hmatch
    exact absurd hmatch.2 (by simp)

/-- The standard table finds nothing for an undefined opcode. -/
theorem lookup_of_undefined {opcode : Opcode} (h : opcode.Undefined) :
    standard.lookup opcode = none := by
  rcases h with ⟨hp, hn⟩ | ⟨hp, hnn⟩ | ⟨hp, hnn⟩
  · refine lookup_of_key_not_mem [0x0, 0x1, 0x2, 0x3, 0x4, 0x5, 0x6, 0x7, 0xE]
      (Opcode.key_of_lowNibble hp) ?_ ?_
    · rw [hp]
      decide
    · simp only [List.mem_cons, List.not_mem_nil, or_false]
      omega
  · refine lookup_of_key_not_mem [0x9E, 0xA1] (Opcode.key_of_lowByte (.inl hp)) ?_ ?_
    · rw [hp]
      decide
    · simp only [List.mem_cons, List.not_mem_nil, or_false, ← UInt8.toNat_inj,
        UInt8.reduceToNat] at hnn ⊢
      omega
  · refine lookup_of_key_not_mem [0x07, 0x0A, 0x15, 0x18, 0x1E, 0x29, 0x33, 0x55, 0x65]
      (Opcode.key_of_lowByte (.inr hp)) ?_ ?_
    · rw [hp]
      decide
    · simp only [List.mem_cons, List.not_mem_nil, or_false, ← UInt8.toNat_inj,
        UInt8.reduceToNat] at hnn ⊢
      omega

theorem lookup_eq_none_iff (opcode : Opcode) :
    standard.lookup opcode = none ↔ opcode.Undefined := by
  constructor
  · intro h
    rcases opcode.encodes_or_undefined with hu | ⟨op, he⟩
    · exact hu
    · obtain ⟨i, hi, -⟩ := lookup_of_encodes he
      rw [h] at hi
      cases hi
  · exact lookup_of_undefined

/-- An instruction that the standard table finds is of an operation the opcode encodes. -/
theorem encodes_of_lookup {opcode : Opcode} {i : Instruction}
    (h : standard.lookup opcode = some i) :
    ∃ op, i.routine = .operation op ∧ opcode.Encodes op := by
  rcases opcode.encodes_or_undefined with hu | ⟨op, he⟩
  · rw [lookup_of_undefined hu] at h
    cases h
  · obtain ⟨j, hj, hop⟩ := lookup_of_encodes he
    rw [h] at hj
    cases hj
    exact ⟨op, hop, he⟩

/-- An opcode stands for one operation at most. -/
theorem encodes_unique {opcode : Opcode} {op op' : Operation} (h : opcode.Encodes op)
    (h' : opcode.Encodes op') : op = op' := by
  obtain ⟨i, hi, hop⟩ := lookup_of_encodes h
  obtain ⟨i', hi', hop'⟩ := lookup_of_encodes h'
  rw [hi, Option.some.injEq] at hi'
  rw [hi', hop', Routine.operation.injEq] at hop
  exact hop.symm

theorem not_encodes_of_undefined {opcode : Opcode} (h : opcode.Undefined) (op : Operation) :
    ¬ opcode.Encodes op := fun he => by
  obtain ⟨i, hi, -⟩ := lookup_of_encodes he
  rw [lookup_of_undefined h] at hi
  cases hi

end DecodeTable

end Chip8
