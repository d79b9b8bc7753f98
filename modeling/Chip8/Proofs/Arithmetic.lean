/-
What arithmetic leaves in the registers.

A sum or a difference of two bytes takes nine bits.  Eight of them go to a register and the
ninth to the flag, so nothing is lost: `toNat_addCarry` and `toNat_subBorrow` are equations
between numbers, without a modulus.

An operation reads both of its registers before it stores anything, and it stores the flag
last.  So its result is the same whichever registers its opcode names, be they one and the same
or the flag register; only where the result goes to the flag register is it the flag that stays.
-/
import Chip8.Proofs.Footprint

namespace Chip8

/-! ### What is left in a register and the flag -/

/-- What a sum leaves in the register `x` and the flag. -/
structure LeavesSum (reg : Fin 16 → UInt8) (x : Fin 16) (a b : Nat) : Prop where
  flag : reg 15 = if 255 < a + b then 1 else 0
  exact : x ≠ 15 → 256 * (reg 15).toNat + (reg x).toNat = a + b

/-- What a difference leaves there.  The flag is one if there is no borrow. -/
structure LeavesDifference (reg : Fin 16 → UInt8) (x : Fin 16) (a b : Nat) : Prop where
  flag : reg 15 = if b ≤ a then 1 else 0
  exact : x ≠ 15 → ((reg x).toNat : Int) - 256 * (1 - (reg 15).toNat) = a - b

namespace Operation

/-- The operations that leave the ninth bit of their result in the flag. -/
def flagged : List Operation := [.add, .subtract, .subtractReverse]

/--
The operations that compute with registers, apart from the shifts.  Under the standard table
these are the opcodes `8xy0` to `8xy5`, `8xy7`, `6xnn` and `7xnn`.
-/
def arithmetic : List Operation :=
  flagged ++ [.load, .or, .and, .xor, .loadImmediate, .addImmediate]

/--
What an arithmetic operation leaves in the registers, if it meets `a` in its register `x` and
`b` in the other one.
-/
def Leaves (op : Operation) (x : Fin 16) (a b immediate : Nat) (reg : Fin 16 → UInt8) : Prop :=
  match op with
  | .add => LeavesSum reg x a b
  | .subtract => LeavesDifference reg x a b
  | .subtractReverse => LeavesDifference reg x b a
  | .load => (reg x).toNat = b
  | .or => (reg x).toNat = a ||| b
  | .and => (reg x).toNat = a &&& b
  | .xor => (reg x).toNat = a ^^^ b
  | .loadImmediate => (reg x).toNat = immediate
  | .addImmediate => (reg x).toNat = (a + immediate) % 256
  | _ => False

end Operation

namespace Processor

/-! ### Nine bits -/

/-- **Nothing of a sum is lost.** -/
theorem toNat_addCarry (a b : UInt8) :
    256 * (addCarry a b).2.toNat + (addCarry a b).1.toNat = a.toNat + b.toNat := by
  have ha := a.toNat_lt
  have hb := b.toNat_lt
  unfold addCarry
  simp only [UInt8.toNat_add]
  by_cases h : a.toNat + b.toNat > 255
  · rw [decide_eq_true h, Bool.toNat_true]
    omega
  · rw [decide_eq_false h, Bool.toNat_false]
    omega

/-- **Nothing of a difference is lost.**  It is below zero if there is a borrow. -/
theorem toNat_subBorrow (a b : UInt8) :
    ((subBorrow a b).1.toNat : Int) - 256 * (1 - (subBorrow a b).2.toNat)
      = a.toNat - b.toNat := by
  have ha := a.toNat_lt
  have hb := b.toNat_lt
  unfold subBorrow
  simp only [UInt8.toNat_sub]
  by_cases h : b ≤ a
  · have hle := UInt8.le_iff_toNat_le.mp h
    rw [decide_eq_true h, Bool.toNat_true]
    omega
  · have hlt := mt UInt8.le_iff_toNat_le.mpr h
    rw [decide_eq_false h, Bool.toNat_false]
    omega

/-! ### The flag comes last -/

theorem flag_setFlag (c : Core) (holds : Bool) :
    (c.setFlag holds).reg 15 = if holds then 1 else 0 := by
  rw [Core.setFlag, Core.reg_setReg, Core.flagRegister, if_pos rfl]

theorem toNat_flag_setFlag (c : Core) (holds : Bool) :
    ((c.setFlag holds).reg 15).toNat = holds.toNat := by
  rw [flag_setFlag]
  cases holds <;> rfl

theorem reg_setFlag (c : Core) (holds : Bool) {r : Fin 16} (hr : r ≠ 15) :
    (c.setFlag holds).reg r = c.reg r := by
  rw [Core.setFlag, Core.reg_setReg, Core.flagRegister, if_neg hr.symm]

theorem reg_resultThenFlag (c : Core) {x : Fin 16} (hx : x ≠ 15) (result : UInt8 × Bool) :
    (resultThenFlag c x result).reg x = result.1 := by
  rw [resultThenFlag, reg_setFlag _ _ hx, Core.reg_setReg, if_pos rfl]

theorem sum_resultThenFlag (c : Core) (x : Fin 16) (a b : UInt8) :
    LeavesSum (resultThenFlag c x (addCarry a b)).reg x a.toNat b.toNat where
  flag := by
    rw [resultThenFlag, flag_setFlag]
    simp [addCarry]
  exact hx := by
    rw [reg_resultThenFlag c hx, resultThenFlag, toNat_flag_setFlag]
    exact toNat_addCarry a b

theorem difference_resultThenFlag (c : Core) (x : Fin 16) (a b : UInt8) :
    LeavesDifference (resultThenFlag c x (subBorrow a b)).reg x a.toNat b.toNat where
  flag := by
    rw [resultThenFlag, flag_setFlag]
    simp [subBorrow, UInt8.le_iff_toNat_le]
  exact hx := by
    rw [reg_resultThenFlag c hx, resultThenFlag, toNat_flag_setFlag]
    exact toNat_subBorrow a b

/-! ### A step that computes -/

variable {p : Processor} {op : Operation}

/-- An arithmetic operation stores in registers and does nothing else. -/
theorem perform_arithmetic (p : Processor) (opcode : Opcode) (hop : op ∈ Operation.arithmetic) :
    ∃ v, p.perform op opcode = .core p { p.core with v } ∧
      op.Leaves opcode.x (p.core.reg opcode.x).toNat (p.core.reg opcode.y).toNat
        opcode.nn.toNat { p.core with v }.reg := by
  have hreg : ∀ value, ((p.core.setReg opcode.x value).reg opcode.x).toNat = value.toNat := by
    intro value
    rw [Core.reg_setReg, if_pos rfl]
  cases op with
  | add => exact ⟨_, rfl, sum_resultThenFlag _ _ _ _⟩
  | subtract | subtractReverse => exact ⟨_, rfl, difference_resultThenFlag _ _ _ _⟩
  | load | loadImmediate => exact ⟨_, rfl, hreg _⟩
  | or => exact ⟨_, rfl, (hreg _).trans (UInt8.toNat_or _ _)⟩
  | and => exact ⟨_, rfl, (hreg _).trans (UInt8.toNat_and _ _)⟩
  | xor => exact ⟨_, rfl, (hreg _).trans (UInt8.toNat_xor _ _)⟩
  | addImmediate => exact ⟨_, rfl, (hreg _).trans (UInt8.toNat_add _ _)⟩
  | clearScreen | returnFromCall | call | jump | skipIfEqualImmediate | skipUnlessEqualImmediate
  | skipIfEqual | skipUnlessEqual | shiftRight | shiftLeft | loadIndex | jumpOffset | random
  | draw | skipIfKey | skipUnlessKey | readDelay | waitKey | setDelay | setSound | addIndex
  | loadGlyph | storeDigits | storeRegisters | loadRegisters =>
    exact absurd hop (by decide)

/-- The registers that it may change are its own and, if it has a flag, that one. -/
theorem changes_of_arithmetic (hop : op ∈ Operation.arithmetic) {x r : Fin 16}
    (h : op.Changes x r) : r = x ∨ (r = 15 ∧ op ∈ Operation.flagged) := by
  cases op with
  | add | subtract | subtractReverse => exact h.imp_right fun hr => ⟨hr, by decide⟩
  | load | or | and | xor | loadImmediate | addImmediate => exact .inl h
  | clearScreen | returnFromCall | call | jump | skipIfEqualImmediate | skipUnlessEqualImmediate
  | skipIfEqual | skipUnlessEqual | shiftRight | shiftLeft | loadIndex | jumpOffset | random
  | draw | skipIfKey | skipUnlessKey | readDelay | waitKey | setDelay | setSound | addIndex
  | loadGlyph | storeDigits | storeRegisters | loadRegisters =>
    exact absurd hop (by decide)

/-- The processor behind an instruction that has left these registers. -/
def behind (p : Processor) (v : Vector UInt8 16) : Processor :=
  { p with
    core := { p.core with v, pc := p.core.pc + 2 }
    completed := p.completed + 1 }

/-- A step whose operation stores in registers and does nothing else. -/
theorem Bounded.step_of_registers (h : p.Bounded) (hn : p.halted = false) (hf : p.Fetches)
    {i : Instruction} (hl : p.table.lookup p.opcode = some i) (hr : i.routine = .operation op)
    {v : Vector UInt8 16}
    (hp : p.passed.perform op p.opcode = .core p.passed { p.passed.core with v }) :
    p.step = (.completed ⟨p.opcode, i⟩, p.behind v) := by
  have hcore : { p.passed.core with v } = { p.core with v, pc := p.core.pc + 2 } := by
    rw [h.core_passed hf]
  rw [hcore] at hp
  exact step_of_steps hn (.completed hf hl hr hp)

/-- What an arithmetic instruction leaves of a processor. -/
structure Computes (p : Processor) (op : Operation) (q : Processor) : Prop where
  /-- The operands are what the registers held before, whichever they are. -/
  result : op.Leaves p.opcode.x (p.core.reg p.opcode.x).toNat (p.core.reg p.opcode.y).toNat
    p.opcode.nn.toNat q.core.reg
  /-- No other register changes, but for the flag of an operation that has one. -/
  kept : ∀ r, r ≠ p.opcode.x → (r = 15 → op ∉ Operation.flagged) →
    q.core.reg r = p.core.reg r
  /-- Nothing else changes, apart from the program counter and the count of instructions. -/
  frame : q = p.behind q.core.v

theorem Bounded.step_of_arithmetic (h : p.Bounded) (hn : p.halted = false)
    (hop : op ∈ Operation.arithmetic) (hnext : p.Next op) :
    (∃ i, p.step.1 = .completed ⟨p.opcode, i⟩) ∧ Computes p op p.step.2 := by
  obtain ⟨hf, i, hl, hr⟩ := hnext
  obtain ⟨v, hp, hleaves⟩ := perform_arithmetic p.passed p.opcode hop
  have hframed := (h.passed hf).framed_perform hp
  rw [h.step_of_registers hn hf hl hr hp]
  refine ⟨⟨i, rfl⟩, ?_⟩
  constructor
  case result => exact hleaves
  case kept =>
    intro r hx hnone
    refine hframed.core.register r (mt (changes_of_arithmetic hop) ?_)
    rintro (hr | ⟨hr, hflag⟩)
    · exact hx hr
    · exact hnone hr hflag
  case frame => rfl

variable {setup : Setup}

/--
**Arithmetic is exact, and its flag is stored last**, for every reachable processor and all
registers that an opcode can name: sums and differences are those of the numbers in the two
registers, with the flag as the ninth bit, and every arithmetic instruction is completed.  Under
the standard table the digits of the opcode say which operation it is.
-/
theorem step_arithmetic (h : Reachable setup p) (hn : p.halted = false)
    (hop : op ∈ Operation.arithmetic) (hnext : p.Next op) :
    (∃ i, p.step.1 = .completed ⟨p.opcode, i⟩) ∧ Computes p op p.step.2 ∧
    (setup.table = .standard → ∀ q, Reachable setup q →
      (q.Next op ↔ q.Fetches ∧ q.opcode.Encodes op)) := by
  obtain ⟨hcompleted, hcomputes⟩ := h.bounded.step_of_arithmetic hn hop hnext
  exact ⟨hcompleted, hcomputes, fun ht q hq => hq.next_iff ht op⟩

/-! ### A program that computes with the flag register -/

variable {image : Array UInt8}

/-- The processor behind the first instruction of a program, which has loaded a register. -/
def onceLoaded (image : Array UInt8) (r : Fin 16) (value : UInt8) : Processor :=
  { loaded image plainSetup with
    core := { Core.initial.setReg r value with pc := 0x202 }
    completed := 1 }

theorem reachable_onceLoaded (word : Opcode) (hfit : FitsProgramSpace image) (hk : 1 < image.size)
    (hw : ((image.getD 0 0).toNat * 256 + (image.getD 1 0).toNat : Nat) = word)
    (he : word.Encodes .loadImmediate) :
    Reachable plainSetup (onceLoaded image word.x word.nn) := by
  obtain ⟨i, hl, hr⟩ := DecodeTable.lookup_of_encodes he
  have hload : Reachable plainSetup (loaded image plainSetup) := reachable_loaded hfit
  exact hload.step_of_image hfit rfl (k := 0) rfl hk hw rfl hl hr rfl rfl

/-- A program that takes the flag register from a smaller number. -/
def borrowing : Array UInt8 := #[0x6F, 0x03, 0x81, 0xF5]

theorem fits_borrowing : FitsProgramSpace borrowing := by decide

/-- The processor that is about to do so. -/
def borrower : Processor := onceLoaded borrowing 15 3

theorem reachable_borrower : Reachable plainSetup borrower :=
  reachable_onceLoaded 0x6F03 fits_borrowing (by decide) rfl (by decide)

theorem opcode_borrower : borrower.opcode = 0x81F5 :=
  opcode_of_image fits_borrowing rfl (k := 2) rfl (by decide)

/-- The three is taken off before the flag register gets the borrow. -/
theorem step_arithmetic_borrower :
    borrower.Next .subtract ∧ borrower.step.2.core.reg 15 = 0 ∧
      (borrower.step.2.core.reg 1).toNat = 256 - 3 := by
  have hnext : borrower.Next .subtract := (next_iff_at rfl _).mpr
    (at_of_image fits_borrowing rfl (k := 2) rfl (by decide) rfl (by decide))
  obtain ⟨-, hcomputes, -⟩ := step_arithmetic reachable_borrower rfl (by decide) hnext
  obtain ⟨hflag, hexact⟩ := hcomputes.result
  rw [opcode_borrower] at hflag hexact
  have hborrow : borrower.step.2.core.reg 15 = 0 := hflag
  have hresult : ((borrower.step.2.core.reg 1).toNat : Int)
      - 256 * (1 - (borrower.step.2.core.reg 15).toNat) = 0 - 3 := hexact (by decide)
  rw [hborrow] at hresult
  refine ⟨hnext, hborrow, ?_⟩
  have hzero : (0 : UInt8).toNat = 0 := rfl
  omega

end Processor

end Chip8
