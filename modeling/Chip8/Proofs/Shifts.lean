/-
What a shift leaves in the registers.

A shift pushes one bit out of its register.  The flag gets this bit before the register is
shifted, so any register but the flag register ends up with its old value shifted.  In the flag
register the bit takes the place of the value, and then it is the bit that is shifted: a shift
to the right always leaves zero there, and one to the left zero or two.  The old value, which
one would expect to find shifted, is lost.
-/
import Chip8.Proofs.Arithmetic

namespace Chip8

namespace Operation

/--
The operations that shift a register.  Under the standard table these are the opcodes `8xy6`
and `8xyE`.
-/
def shifts : List Operation := [.shiftRight, .shiftLeft]

/-- What a shift makes of a number. -/
def shifted (op : Operation) (a : Nat) : Nat :=
  match op with
  | .shiftRight => a >>> 1
  | .shiftLeft => 2 * a % 256
  | _ => a

/-- The bit that it pushes out of a byte. -/
def pushedOut (op : Operation) (a : Nat) : Nat :=
  match op with
  | .shiftRight => a % 2
  | .shiftLeft => if 128 ≤ a then 1 else 0
  | _ => 0

end Operation

/-- What a shift leaves in the registers, if it meets `a` in its register `x`. -/
structure LeavesShift (op : Operation) (reg : Fin 16 → UInt8) (x : Fin 16) (a : Nat) : Prop where
  value : x ≠ 15 → (reg x).toNat = op.shifted a
  flag : x ≠ 15 → (reg 15).toNat = op.pushedOut a
  /-- In the flag register the bit is shifted and the value is lost. -/
  lost : x = 15 → (reg 15).toNat = op.shifted (op.pushedOut a)

/-- The number that is shifted decides what is left. -/
theorem LeavesShift.unique {op : Operation} {reg reg' : Fin 16 → UInt8} {x : Fin 16} {a : Nat}
    (h : LeavesShift op reg x a) (h' : LeavesShift op reg' x a) :
    reg' x = reg x ∧ reg' 15 = reg 15 := by
  by_cases hx : x = 15
  · have hflag : reg' 15 = reg 15 := UInt8.toNat_inj.mp ((h'.lost hx).trans (h.lost hx).symm)
    exact ⟨hx ▸ hflag, hflag⟩
  · exact ⟨UInt8.toNat_inj.mp ((h'.value hx).trans (h.value hx).symm),
      UInt8.toNat_inj.mp ((h'.flag hx).trans (h.flag hx).symm)⟩

namespace Processor

theorem leavesShift_flagThenShift {op : Operation} (c : Core) (x : Fin 16) {bit : Bool}
    {shift : UInt8 → UInt8} (hbit : bit.toNat = op.pushedOut (c.reg x).toNat)
    (hshift : ∀ value, (shift value).toNat = op.shifted value.toNat) :
    LeavesShift op (flagThenShift c x bit shift).reg x (c.reg x).toNat where
  value hx := by
    rw [flagThenShift, Core.reg_setReg, if_pos rfl, hshift, reg_setFlag _ _ hx]
  flag hx := by
    rw [flagThenShift, Core.reg_setReg, if_neg hx, toNat_flag_setFlag, hbit]
  lost hx := by
    rw [flagThenShift, hx, Core.reg_setReg, if_pos rfl, hshift, toNat_flag_setFlag, hbit, hx]

theorem pushedOut_shiftRight (a : UInt8) :
    (a.toNat.testBit 0).toNat = Operation.pushedOut .shiftRight a.toNat := by
  rw [Nat.testBit_zero, Operation.pushedOut]
  by_cases h : a.toNat % 2 = 1
  · rw [decide_eq_true h, h]
    rfl
  · rw [decide_eq_false h, Bool.toNat_false]
    omega

theorem pushedOut_shiftLeft (a : UInt8) :
    (a.toNat.testBit 7).toNat = Operation.pushedOut .shiftLeft a.toNat := by
  have ha := a.toNat_lt
  rw [Nat.testBit_eq_decide_div_mod_eq, Operation.pushedOut]
  by_cases h : 128 ≤ a.toNat
  · rw [if_pos h, decide_eq_true (by omega), Bool.toNat_true]
  · rw [if_neg h, decide_eq_false (by omega), Bool.toNat_false]

/-! ### A step that shifts -/

variable {p q : Processor} {op : Operation}

/-- A shift stores in registers and does nothing else. -/
theorem perform_shift (p : Processor) (opcode : Opcode) (hop : op ∈ Operation.shifts) :
    ∃ v, p.perform op opcode = .core p { p.core with v } ∧
      LeavesShift op { p.core with v }.reg opcode.x (p.core.reg opcode.x).toNat := by
  rcases List.mem_pair.mp hop with rfl | rfl
  · have hshift : ∀ value : UInt8,
        (value >>> 1).toNat = Operation.shifted .shiftRight value.toNat :=
      fun value => UInt8.toNat_shiftRight value 1
    exact ⟨_, rfl, leavesShift_flagThenShift p.core opcode.x (pushedOut_shiftRight _) hshift⟩
  · have hshift : ∀ value : UInt8,
        (value <<< 1).toNat = Operation.shifted .shiftLeft value.toNat :=
      fun value => UInt8.toNat_shiftLeft value 1
    exact ⟨_, rfl, leavesShift_flagThenShift p.core opcode.x (pushedOut_shiftLeft _) hshift⟩

/-- What a shift leaves of a processor. -/
structure Shifts (p : Processor) (op : Operation) (q : Processor) : Prop where
  result : LeavesShift op q.core.reg p.opcode.x (p.core.reg p.opcode.x).toNat
  kept : ∀ r, r ≠ p.opcode.x → r ≠ 15 → q.core.reg r = p.core.reg r
  /-- Nothing else changes, apart from the program counter and the count of instructions. -/
  frame : q = p.behind q.core.v

theorem Bounded.step_of_shift (h : p.Bounded) (hn : p.halted = false) (hf : p.Fetches)
    {i : Instruction} (hl : p.table.lookup p.opcode = some i) (hr : i.routine = .operation op)
    (hop : op ∈ Operation.shifts) :
    p.step.1 = .completed ⟨p.opcode, i⟩ ∧ Shifts p op p.step.2 := by
  obtain ⟨v, hp, hleaves⟩ := perform_shift p.passed p.opcode hop
  have hframed := (h.passed hf).framed_perform hp
  rw [h.step_of_registers hn hf hl hr hp]
  refine ⟨rfl, ?_⟩
  constructor
  case result => exact hleaves
  case kept =>
    intro r hx hflag
    refine hframed.core.register r ?_
    rcases List.mem_pair.mp hop with rfl | rfl
    · exact not_or.mpr ⟨hx, hflag⟩
    · exact not_or.mpr ⟨hx, hflag⟩
  case frame => rfl

/-! ### The flag register -/

/-- Shifted once more, the bit is pushed out at the right or comes to stand for two. -/
theorem shifted_pushedOut (hop : op ∈ Operation.shifts) (a : Nat) :
    op.shifted (op.pushedOut a) = if op = .shiftLeft ∧ 128 ≤ a then 2 else 0 := by
  rcases List.mem_pair.mp hop with rfl | rfl
  · rw [if_neg (by simp), Operation.shifted, Operation.pushedOut, Nat.shiftRight_one]
    omega
  · simp only [Operation.shifted, Operation.pushedOut, true_and]
    by_cases h : 128 ≤ a
    · rw [if_pos h, if_pos h]
    · rw [if_neg h, if_neg h]

/-! ### What a shift does not read -/

/-- The processor with one register changed. -/
def setReg (p : Processor) (r : Fin 16) (value : UInt8) : Processor :=
  { p with core := p.core.setReg r value }

theorem Bounded.setReg (h : p.Bounded) (r : Fin 16) (value : UInt8) :
    (p.setReg r value).Bounded := { h with core := h.core.of_same rfl rfl rfl }

/-- Another register than the shifted one has no part in the result. -/
theorem Shifts.unread {r : Fin 16} {value : UInt8} {q' : Processor} (h : Shifts p op q)
    (hr : r ≠ p.opcode.x) (h' : Shifts (p.setReg r value) op q') {s : Fin 16}
    (hs : s ≠ r ∨ s = 15) : q'.core.reg s = q.core.reg s := by
  have hset : ∀ t, (p.setReg r value).core.reg t = if r = t then value else p.core.reg t :=
    fun t => Core.reg_setReg p.core r t value
  have hresult := h'.result
  have hopcode : (p.setReg r value).opcode = p.opcode := rfl
  rw [hopcode, hset, if_neg hr] at hresult
  obtain ⟨hvalue, hflag⟩ := h.result.unique hresult
  by_cases hx : s = p.opcode.x
  · rw [hx]
    exact hvalue
  by_cases hf : s = 15
  · rw [hf]
    exact hflag
  · have hne : r ≠ s := (hs.resolve_right hf).symm
    rw [h.kept s hx hf, h'.kept s hx hf, hset, if_neg hne]

variable {setup : Setup}

/--
**A shift keeps the shifted value and the bit it pushes out, except in the flag register.**
Every shift is completed, for every reachable processor, and what it leaves does not depend on
any register but the one it shifts.  Under the standard table the opcodes that shift are those of
the forms `8xy6` and `8xyE`.
-/
theorem step_shift (h : Reachable setup p) (hn : p.halted = false)
    (hop : op ∈ Operation.shifts) (hnext : p.Next op) :
    (∃ i, p.step.1 = .completed ⟨p.opcode, i⟩) ∧ Shifts p op p.step.2 ∧
    (p.opcode.x = 15 → (p.step.2.core.reg 15).toNat
      = if op = .shiftLeft ∧ 128 ≤ (p.core.reg 15).toNat then 2 else 0) ∧
    (∀ r, r ≠ p.opcode.x → ∀ value,
      (p.setReg r value).step.1 = p.step.1 ∧
      ∀ s, s ≠ r ∨ s = 15 → (p.setReg r value).step.2.core.reg s = p.step.2.core.reg s) ∧
    (setup.table = .standard → ∀ q, Reachable setup q →
      (q.Next .shiftRight ↔ q.Fetches ∧ q.opcode.primary = 0x8 ∧ q.opcode.n = 0x6) ∧
      (q.Next .shiftLeft ↔ q.Fetches ∧ q.opcode.primary = 0x8 ∧ q.opcode.n = 0xE)) := by
  have hb := h.bounded
  obtain ⟨hf, i, hl, hr⟩ := hnext
  obtain ⟨hcompleted, hshifts⟩ := hb.step_of_shift hn hf hl hr hop
  refine ⟨⟨i, hcompleted⟩, hshifts, ?_, ?_, ?_⟩
  · intro hx
    have hlost := hshifts.result.lost hx
    rw [shifted_pushedOut hop, hx] at hlost
    exact hlost
  · intro r hne value
    obtain ⟨hcompleted', hshifts'⟩ :=
      (hb.setReg r value).step_of_shift (p := p.setReg r value) hn hf hl hr hop
    exact ⟨hcompleted'.trans hcompleted.symm, fun s => hshifts.unread hne hshifts'⟩
  · intro ht q hq
    exact ⟨hq.next_iff ht .shiftRight, hq.next_iff ht .shiftLeft⟩

/-- A program that doubles a number by a shift. -/
def doubling : Array UInt8 := #[0x60, 0x81, 0x80, 0xFE]

theorem fits_doubling : FitsProgramSpace doubling := by decide

/-- The processor that is about to do so. -/
def doubler : Processor := onceLoaded doubling 0 0x81

theorem reachable_doubler : Reachable plainSetup doubler :=
  reachable_onceLoaded 0x6081 fits_doubling (by decide) rfl (by decide)

theorem opcode_doubler : doubler.opcode = 0x80FE :=
  opcode_of_image fits_doubling rfl (k := 2) rfl (by decide)

/-- The highest bit goes to the flag, whatever was there before. -/
theorem step_shift_doubler :
    doubler.Next .shiftLeft ∧ doubler.step.2.core.reg 0 = 2 ∧
      ∀ value, (doubler.setReg 15 value).step.2.core.reg 15 = 1 := by
  have hnext : doubler.Next .shiftLeft := (next_iff_at rfl _).mpr
    (at_of_image fits_doubling rfl (k := 2) rfl (by decide) rfl (by decide))
  obtain ⟨-, ⟨hresult, -, -⟩, -, hunread, -⟩ :=
    step_shift reachable_doubler rfl (by decide) hnext
  rw [opcode_doubler] at hresult hunread
  have hvalue : (doubler.step.2.core.reg 0).toNat = 2 := hresult.value (by decide)
  have hflag : (doubler.step.2.core.reg 15).toNat = 1 := hresult.flag (by decide)
  refine ⟨hnext, UInt8.toNat_inj.mp hvalue, ?_⟩
  intro value
  rw [(hunread 15 (by decide) value).2 15 (.inr rfl)]
  exact UInt8.toNat_inj.mp hflag

/-- A program that shifts a three in the flag register. -/
def flagShifting : Array UInt8 := #[0x6F, 0x03, 0x8F, 0x06]

theorem fits_flagShifting : FitsProgramSpace flagShifting := by decide

/-- The processor that is about to do so. -/
def flagShifter : Processor := onceLoaded flagShifting 15 3

theorem reachable_flagShifter : Reachable plainSetup flagShifter :=
  reachable_onceLoaded 0x6F03 fits_flagShifting (by decide) rfl (by decide)

theorem opcode_flagShifter : flagShifter.opcode = 0x8F06 :=
  opcode_of_image fits_flagShifting rfl (k := 2) rfl (by decide)

/-- It does not find its half there. -/
theorem shift_forgets_flag_register :
    ∃ p, Reachable plainSetup p ∧ p.halted = false ∧ p.Next .shiftRight ∧ p.opcode = 0x8F06 ∧
      (p.core.reg 15).toNat = 3 ∧ Operation.shifted .shiftRight 3 = 1 ∧
      (p.step.2.core.reg 15).toNat = 0 := by
  have hnext : flagShifter.Next .shiftRight := (next_iff_at rfl _).mpr
    (at_of_image fits_flagShifting rfl (k := 2) rfl (by decide) rfl (by decide))
  obtain ⟨hf, i, hl, hr⟩ := hnext
  obtain ⟨-, hshifts⟩ :=
    reachable_flagShifter.bounded.step_of_shift rfl hf hl hr (by decide)
  have hresult := hshifts.result
  rw [opcode_flagShifter] at hresult
  exact ⟨flagShifter, reachable_flagShifter, rfl, ⟨hf, i, hl, hr⟩, opcode_flagShifter, rfl, rfl,
    hresult.lost rfl⟩

end Processor

end Chip8
