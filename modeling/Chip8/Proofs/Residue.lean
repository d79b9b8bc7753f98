/-
What a failing step leaves behind.

A step that fails stops the processor, and if its instruction was fetched the program
counter stands behind it; so far `stopped`.  Four operations transfer bytes or rows one
after the other, and what they did before the address that fails remains: registers that
were stored or loaded, digits that were stored, rows that were drawn.  Everything else is
as it was before the step, the flag and the redraw note of a drawing among it.
-/
import Chip8.Proofs.Drawing
import Chip8.Proofs.Faults
import Mathlib.Algebra.Group.Nat.Defs

namespace Chip8.Processor

/-- The processor stopped at an instruction that cannot be fetched, or else behind it. -/
def stopped (p : Processor) : Processor :=
  { p with
    core := { p.core with pc := if p.core.pc < 0xFFF then p.core.pc + 2 else p.core.pc }
    halted := true }

/-- What a failing step leaves of a processor. -/
structure Residue (p q : Processor) : Prop where
  /-- Only registers, memory and screen can show more than that it stopped. -/
  frame : q = { p.stopped with
    core := { p.stopped.core with v := q.core.v }
    memory := q.memory
    screen := q.screen }
  v : ¬ p.At .loadRegisters → q.core.v = p.core.v
  memory : ¬ p.At .storeRegisters → ¬ p.At .storeDigits → q.memory = p.memory
  screen : ¬ p.At .draw → q.screen = p.screen
  /-- Registers are loaded as far as memory goes. -/
  loadRegisters : p.At .loadRegisters → ∀ r : Fin 16, q.core.reg r
    = if r ≤ p.opcode.x ∧ p.core.index + r ≤ 0xFFF then p.memory.byte (p.core.index + r)
      else p.core.reg r
  /-- Registers are stored as far as memory goes, and nowhere else. -/
  storeRegisters : p.At .storeRegisters →
    (∀ r : Fin 16, r ≤ p.opcode.x → p.core.index + r ≤ 0xFFF →
      q.memory.byte (p.core.index + r) = p.core.reg r) ∧
    ∀ address : Int, (∀ r : Fin 16, r ≤ p.opcode.x → p.core.index + r ≤ 0xFFF →
      address ≠ p.core.index + r) → q.memory.byte address = p.memory.byte address
  /-- Digits are stored as far as memory goes, and nowhere else. -/
  storeDigits : p.At .storeDigits →
    (∀ k < 3, p.core.index + (k : Nat) ≤ 0xFFF → (q.memory.byte (p.core.index + k)).toNat
      = (p.core.reg p.opcode.x).toNat / 10 ^ (2 - k) % 10) ∧
    ∀ address : Int, (∀ k < 3, p.core.index + (k : Nat) ≤ 0xFFF →
      address ≠ p.core.index + k) → q.memory.byte address = p.memory.byte address
  /-- The rows of the sprite are drawn as far as memory goes. -/
  draw : p.At .draw → ∀ u v : Int, q.screen.lit u v
    = (p.screen.lit u v ^^
        (decide ((v - p.originY) % 32 < p.opcode.n
            ∧ p.core.index + (v - p.originY) % 32 ≤ 0xFFF)
          && p.spriteAt ((u - p.originX) % 64) ((v - p.originY) % 32)))
  /-- Memory keeps its range -/
  range : q.memory.start = 0 ∧ q.memory.size = 0x1000
  /-- and the screen its size. -/
  size : q.screen.width = 64 ∧ q.screen.height = 32

variable {p q : Processor} {fault : Fault}

/-! ### Stopping -/

theorem Bounded.halt_eq_stopped (h : p.Bounded) (hf : ¬ p.Fetches) : p.halt = p.stopped := by
  rw [h.fetches_iff] at hf
  rw [stopped, if_neg hf]
  rfl

theorem Bounded.passed_halt_eq_stopped (h : p.Bounded) (hf : p.Fetches) :
    p.passed.halt = p.stopped := by
  have hcore := h.core_passed hf
  rw [h.fetches_iff] at hf
  rw [stopped, if_pos hf, ← hcore]
  rfl

/-- The operations that transfer bytes or rows one after the other. -/
def transfers : List Operation := [.loadRegisters, .storeRegisters, .storeDigits, .draw]

theorem At.not_transfer {op : Operation} (hat : p.At op) (hop : op ∉ transfers) :
    ∀ op' ∈ transfers, ¬ p.At op' := by
  intro op' hmem hat'
  rw [hat.eq hat'] at hop
  exact hop hmem

/-- A step that comes to no transfer leaves nothing else behind. -/
theorem Bounded.residue_stopped (h : p.Bounded) (hnot : ∀ op ∈ transfers, ¬ p.At op) :
    Residue p p.stopped where
  frame := rfl
  v _ := rfl
  memory _ _ := rfl
  screen _ := rfl
  loadRegisters hat := absurd hat (hnot _ (by decide))
  storeRegisters hat := absurd hat (hnot _ (by decide))
  storeDigits hat := absurd hat (hnot _ (by decide))
  draw hat := absurd hat (hnot _ (by decide))
  range := ⟨h.start, h.size⟩
  size := ⟨h.width, h.height⟩

/-! ### What is stored -/

/-- Where a transfer stores. -/
theorem Bounded.byte_writeEach_of_lt (h : p.Bounded) {values : List UInt8} {k : Nat}
    (hk : k < values.length) (hm : p.core.index + k ≤ 0xFFF) :
    (p.memory.writeEach p.core.index values).1.byte (p.core.index + k) = values.getD k 0 := by
  rw [h.byte_writeEach, if_pos (by omega),
    show p.core.index + (k : Int) - p.core.index = k by omega]
  rfl

/-- Where it does not. -/
theorem Bounded.byte_writeEach_of_ne (h : p.Bounded) {values : List UInt8} {address : Int}
    (hne : ∀ k < values.length, p.core.index + (k : Nat) ≤ 0xFFF → address ≠ p.core.index + k) :
    (p.memory.writeEach p.core.index values).1.byte address = p.memory.byte address := by
  rw [h.byte_writeEach, if_neg fun hin => ?_]
  exact hne (address - p.core.index).toNat (by omega) (by omega) (by omega)

theorem getD_regsUpTo (c : Core) {r x : Fin 16} (hr : r ≤ x) :
    (c.regsUpTo x).getD r.val 0 = c.reg r := by
  have hlt : r.val < x.val + 1 := Nat.lt_succ_of_le hr
  rw [Core.regsUpTo, List.getD_eq_getElem?_getD, List.getElem?_take_of_lt hlt]
  simp [Core.reg]

/-- The digits that are stored are those of the decimal expansion. -/
theorem getD_decimalDigits (value : UInt8) {k : Nat} (hk : k < 3) :
    ((decimalDigits value).getD k 0).toNat = value.toNat / 10 ^ (2 - k) % 10 := by
  have hlt := value.toNat_lt
  obtain rfl | rfl | rfl : k = 0 ∨ k = 1 ∨ k = 2 := by omega
  · show (value / 100).toNat = value.toNat / 10 ^ 2 % 10
    rw [UInt8.toNat_div]
    show value.toNat / 100 = value.toNat / 100 % 10
    omega
  · show (value / 10 % 10).toNat = value.toNat / 10 ^ 1 % 10
    rw [UInt8.toNat_mod, UInt8.toNat_div]
    rfl
  · show (value % 10).toNat = value.toNat / 10 ^ 0 % 10
    rw [UInt8.toNat_mod, Nat.pow_zero, Nat.div_one]
    rfl

/-! ### Operations that are cut short -/

theorem Bounded.residue_draw (h : p.Bounded) (hat : p.At .draw) :
    Residue p { p.stopped with screen := p.drawing.1 } where
  frame := rfl
  v _ := rfl
  memory _ _ := rfl
  screen hne := absurd hat hne
  loadRegisters hat' := nomatch hat.eq hat'
  storeRegisters hat' := nomatch hat.eq hat'
  storeDigits hat' := nomatch hat.eq hat'
  draw _ u v := h.lit_drawn _ _ (Nat.le_trans (Nat.le_of_lt p.opcode.n_lt) (by decide)) u v
  range := ⟨h.start, h.size⟩
  size := ⟨(Screen.width_draw _ _ _ _).trans h.width, (Screen.height_draw _ _ _ _).trans h.height⟩

theorem Bounded.residue_loadRegisters (h : p.Bounded) (hat : p.At .loadRegisters) :
    Residue p { p.stopped with
      core := p.stopped.core.setRegs
        (p.memory.readEach p.core.index (p.opcode.x.val + 1)).1 } where
  frame := rfl
  v hne := absurd hat hne
  memory _ _ := rfl
  screen _ := rfl
  loadRegisters _ r := by
    have hle : r.val < p.opcode.x.val + 1 ↔ r ≤ p.opcode.x := Nat.lt_succ_iff
    show (p.stopped.core.setRegs _).reg r = _
    rw [Core.reg_setRegs, h.getD_readEach]
    simp only [hle]
    rfl
  storeRegisters hat' := nomatch hat.eq hat'
  storeDigits hat' := nomatch hat.eq hat'
  draw hat' := nomatch hat.eq hat'
  range := ⟨h.start, h.size⟩
  size := ⟨h.width, h.height⟩

/-- What a transfer into memory leaves, whatever it stores. -/
def storing (p : Processor) (values : List UInt8) : Processor :=
  { p.stopped with memory := (p.memory.writeEach p.core.index values).1 }

theorem Bounded.range_storing (h : p.Bounded) (values : List UInt8) :
    (p.storing values).memory.start = 0 ∧ (p.storing values).memory.size = 0x1000 :=
  ⟨(Memory.start_writeEach _ _ _).trans h.start, (Memory.size_writeEach _ _ _).trans h.size⟩

theorem Bounded.residue_storeRegisters (h : p.Bounded) (hat : p.At .storeRegisters) :
    Residue p (p.storing (p.core.regsUpTo p.opcode.x)) where
  frame := rfl
  v _ := rfl
  memory hne := absurd hat hne
  screen _ := rfl
  loadRegisters hat' := nomatch hat.eq hat'
  storeRegisters _ := by
    have hlen := length_regsUpTo p.core p.opcode.x
    constructor
    · intro r hr hm
      have hlt : r.val < (p.core.regsUpTo p.opcode.x).length := by omega
      exact (h.byte_writeEach_of_lt hlt hm).trans (getD_regsUpTo p.core hr)
    · intro address hne
      refine h.byte_writeEach_of_ne fun k hk hm => ?_
      exact hne ⟨k, by omega⟩ (by rw [Fin.le_def]; show k ≤ _; omega) hm
  storeDigits hat' := nomatch hat.eq hat'
  draw hat' := nomatch hat.eq hat'
  range := h.range_storing _
  size := ⟨h.width, h.height⟩

theorem Bounded.residue_storeDigits (h : p.Bounded) (hat : p.At .storeDigits) :
    Residue p (p.storing (decimalDigits (p.core.reg p.opcode.x))) where
  frame := rfl
  v _ := rfl
  memory _ hne := absurd hat hne
  screen _ := rfl
  loadRegisters hat' := nomatch hat.eq hat'
  storeRegisters hat' := nomatch hat.eq hat'
  storeDigits _ := by
    constructor
    · intro k hk hm
      rw [← getD_decimalDigits _ hk, ← h.byte_writeEach_of_lt hk hm]
      rfl
    · exact fun address hne => h.byte_writeEach_of_ne hne
  draw hat' := nomatch hat.eq hat'
  range := h.range_storing _
  size := ⟨h.width, h.height⟩

/-! ### Steps that fail -/

theorem Fails.residue (h : p.Bounded) (hs : Fails p fault q) : Residue p q := by
  cases hs with
  | unfetched hf =>
      rw [h.halt_eq_stopped hf]
      exact h.residue_stopped fun op _ hat => hf hat.1
  | illegal hf hu =>
      rw [h.passed_halt_eq_stopped hf]
      exact h.residue_stopped fun op _ hat => DecodeTable.not_encodes_of_undefined hu op hat.2
  | @cut op q fault hat hc =>
      have hstop := h.passed_halt_eq_stopped hat.1
      cases hc with
      | emptyStack hs =>
          rw [hstop]
          exact h.residue_stopped (hat.not_transfer (by decide))
      | noSuchKey hop hk =>
          rw [hstop]
          rcases hop with rfl | rfl
          · exact h.residue_stopped (hat.not_transfer (by decide))
          · exact h.residue_stopped (hat.not_transfer (by decide))
      | draw herr =>
          have hq := h.residue_draw hat
          rw [← hstop] at hq
          exact hq
      | store hop herr =>
          rcases hop with ⟨rfl, rfl⟩ | ⟨rfl, rfl⟩
          · have hq := h.residue_storeDigits hat
            rw [storing, ← hstop] at hq
            exact hq
          · have hq := h.residue_storeRegisters hat
            rw [storing, ← hstop] at hq
            exact hq
      | loadRegisters herr =>
          have hq := h.residue_loadRegisters hat
          rw [← hstop] at hq
          exact hq

variable {setup : Setup}

/--
**A failing step leaves nothing but what its operation did before the fault**, for every
reachable processor that runs the console's own instructions.
-/
theorem step_residue (h : Reachable setup p) (ht : setup.table = .standard)
    (hn : p.halted = false) (he : p.step.1.toExcept = .error fault) : Residue p p.step.2 := by
  have hb := h.bounded
  exact (fails_of_steps hb (h.table.trans ht) (steps_of_running hn) he).residue hb

/-- The first register is stored although there is no room for the second. -/
theorem step_residue_overrunner :
    overrunner.step.2.halted = true ∧ overrunner.step.2.core.pc = 0x206 ∧
      overrunner.step.2.memory.byte 0xFFF = 0x07 := by
  have hb := reachable_overrunner.bounded
  have he := (error_iff_fails hb rfl rfl).mpr (fails_of_faulty hb faulty_overrunner)
  have hat : overrunner.At .storeRegisters :=
    at_of_image fits_overrunImage rfl (k := 4) rfl (by decide) rfl (by decide)
  have hres := step_residue reachable_overrunner rfl rfl he
  refine ⟨?_, ?_, (hres.storeRegisters hat).1 0 (Fin.zero_le _) (by decide)⟩
  · rw [hres.frame]
    rfl
  · rw [hres.frame]
    rfl

end Chip8.Processor
