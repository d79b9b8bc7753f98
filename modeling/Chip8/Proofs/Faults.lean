/-
Which faults stop a program of the console's own instructions.

Under the standard table no instruction is without an operation, so a step fails in one
of three ways, and `Fails` says which together with what each leaves.  What brings a
fault about is then a matter of the opcode, of a register and of how far the index is
from the end of memory: `Faulty` lists it.  The list is complete, and every entry of it
does stop the program, with just that fault.

A transfer fails at the first address behind memory, or at the index itself if that
lies even further.  It is the same address whatever is transferred, and whichever way.
-/
import Chip8.Proofs.Reachable

namespace Chip8.Processor

variable {p q : Processor} {fault : Fault}

/-! ### How a step fails -/

/-- How a step under the standard table fails, and what it leaves. -/
inductive Fails (p : Processor) : Fault → Processor → Prop
  | unfetched (h : ¬ p.Fetches) :
      Fails p (.access ⟨max p.core.pc 0x1000, 0, 0xFFF⟩) p.halt
  | illegal (hf : p.Fetches) (hu : p.opcode.Undefined) :
      Fails p (.illegal p.opcode p.core.pc) p.passed.halt
  | cut {op : Operation} {q : Processor} {fault : Fault} (hat : p.At op)
      (hc : CutShort p.passed p.opcode op q fault) : Fails p fault q.halt

theorem Bounded.readWord_of_not_fetches (h : p.Bounded) (hf : ¬ p.Fetches) :
    p.memory.readWord p.core.pc = .error ⟨max p.core.pc 0x1000, 0, 0xFFF⟩ := by
  have hpc : 0xFFF ≤ p.core.pc := Int.not_lt.mp fun hlt => hf (h.fetches_iff.mpr hlt)
  rw [Memory.readWord_of_le, Memory.outside, Memory.lastAddress, h.start, h.size, memorySize]
  · rfl
  · rw [h.start]
    omega
  · rw [h.start, h.size, memorySize]
    omega

theorem fails_of_steps (h : p.Bounded) (ht : p.table = .standard) {outcome : StepOutcome}
    (hs : Steps p outcome q) (he : outcome.toExcept = .error fault) : Fails p fault q := by
  cases hs with
  | unfetched hw =>
      have hf : ¬ p.Fetches := fun hf => by
        rw [readWord_of_fetches hf] at hw
        cases hw
      rw [h.readWord_of_not_fetches hf] at hw
      cases hw
      cases he
      exact .unfetched hf
  | illegal hf hl =>
      cases he
      rw [ht, DecodeTable.lookup_eq_none_iff] at hl
      exact .illegal hf hl
  | unknown hf hl hr =>
      rw [ht] at hl
      obtain ⟨op, hop, -⟩ := DecodeTable.encodes_of_lookup hl
      rw [hr] at hop
      cases hop
  | cut hf hl hr hc =>
      cases he
      exact .cut ((next_iff_at ht _).mp ⟨hf, _, hl, hr⟩) hc
  | completed => cases he

theorem step_of_fails (h : p.Bounded) (ht : p.table = .standard) (hn : p.halted = false)
    (hs : Fails p fault q) : ∃ reached, p.step = (.failed fault reached, q) := by
  cases hs with
  | unfetched hf => exact ⟨_, step_of_steps hn (.unfetched (h.readWord_of_not_fetches hf))⟩
  | illegal hf hu =>
      have hl : p.table.lookup p.opcode = none := by
        rw [ht]
        exact DecodeTable.lookup_of_undefined hu
      exact ⟨_, step_of_steps hn (.illegal hf hl)⟩
  | cut hat hc =>
      obtain ⟨hf, i, hl, hr⟩ := (next_iff_at ht _).mpr hat
      exact ⟨_, step_of_steps hn (.cut hf hl hr hc)⟩

theorem error_iff_fails (h : p.Bounded) (ht : p.table = .standard) (hn : p.halted = false) :
    p.step.1.toExcept = .error fault ↔ ∃ q, Fails p fault q := by
  constructor
  · intro he
    exact ⟨_, fails_of_steps h ht (steps_of_running hn) he⟩
  · rintro ⟨q, hs⟩
    obtain ⟨reached, hstep⟩ := step_of_fails h ht hn hs
    rw [hstep]
    rfl

/-! ### What brings a fault about -/

theorem opcode_nonneg (p : Processor) : 0 ≤ p.opcode := Int.natCast_nonneg _

theorem opcode_lt (p : Processor) : p.opcode < 0x10000 := by
  have hhigh := (p.memory.byte p.core.pc).toNat_lt
  have hlow := (p.memory.byte (p.core.pc + 1)).toNat_lt
  show ((p.memory.word p.core.pc : Nat) : Int) < 0x10000
  unfold Memory.word
  omega

/-- The opcode at the program counter is no longer than its sixteen bits. -/
theorem opcode_emod (p : Processor) : p.opcode % 0x10000 = p.opcode :=
  Int.emod_eq_of_lt p.opcode_nonneg p.opcode_lt

theorem length_regsUpTo (c : Core) (r : Fin 16) : (c.regsUpTo r).length = r.val + 1 := by
  rw [Core.regsUpTo, List.length_take, c.v.length_toList]
  omega

/-- The faults that a running program can meet, each with what brings it about. -/
inductive Faulty (p : Processor) : Fault → Prop
  /-- The program counter has left memory, or its last byte is all that is left. -/
  | fetch (h : 0xFFF ≤ p.core.pc) : Faulty p (.access ⟨max p.core.pc 0x1000, 0, 0xFFF⟩)
  | illegal (hf : p.core.pc < 0xFFF) (h : p.opcode.Undefined) :
      Faulty p (.illegal p.opcode p.core.pc)
  /-- A return without a call. -/
  | emptyStack (hf : p.core.pc < 0xFFF) (h : p.opcode = 0x00EE) (hs : p.core.stack = []) :
      Faulty p (.emptyStack p.core.pc)
  /-- A register that should name a key holds more than the highest key. -/
  | noSuchKey (hf : p.core.pc < 0xFFF) (hp : p.opcode.primary = 0xE)
      (hnn : p.opcode.nn = 0x9E ∨ p.opcode.nn = 0xA1)
      (hk : 15 < (p.core.reg p.opcode.x).toNat) :
      Faulty p (.noSuchKey (p.core.reg p.opcode.x))
  /-- The last row of a sprite, -/
  | draw (hf : p.core.pc < 0xFFF) (hp : p.opcode.primary = 0xD) (hn : 1 ≤ p.opcode.n)
      (hi : 0xFFF < p.core.index + p.opcode.n - 1) :
      Faulty p (.access ⟨max p.core.index 0x1000, 0, 0xFFF⟩)
  /-- the last of three digits, -/
  | digits (hf : p.core.pc < 0xFFF) (hp : p.opcode.primary = 0xF) (hnn : p.opcode.nn = 0x33)
      (hi : 0xFFF < p.core.index + 2) :
      Faulty p (.access ⟨max p.core.index 0x1000, 0, 0xFFF⟩)
  /-- or the last of some registers would lie behind memory. -/
  | registers (hf : p.core.pc < 0xFFF) (hp : p.opcode.primary = 0xF)
      (hnn : p.opcode.nn = 0x55 ∨ p.opcode.nn = 0x65) (hi : 0xFFF < p.core.index + p.opcode.x) :
      Faulty p (.access ⟨max p.core.index 0x1000, 0, 0xFFF⟩)

/-- An operation that is cut short is in the list. -/
theorem faulty_of_cutShort (h : p.Bounded) {op : Operation} (hat : p.At op)
    (hc : CutShort p.passed p.opcode op q fault) : Faulty p fault := by
  obtain ⟨hf, he⟩ := hat
  have hpc := h.fetches_iff.mp hf
  cases hc with
  | emptyStack hs =>
      have hopcode : p.opcode % 0x10000 = 0x00EE := he
      rw [opcode_emod] at hopcode
      rw [h.wrap16_passed_sub hf]
      exact .emptyStack hpc hopcode hs
  | noSuchKey hop hk =>
      rcases hop with rfl | rfl
      · exact .noSuchKey hpc he.1 (.inl he.2) hk
      · exact .noSuchKey hpc he.1 (.inr he.2) hk
  | draw herr =>
      obtain ⟨hn, hi, rfl⟩ := h.readEach_error_iff.mp herr
      exact .draw hpc he hn hi
  | store hop herr =>
      obtain ⟨-, hi, rfl⟩ := h.writeEach_error_iff.mp herr
      rcases hop with ⟨rfl, rfl⟩ | ⟨rfl, rfl⟩
      · have hthree : (decimalDigits (p.passed.core.reg p.opcode.x)).length = 3 := rfl
        exact .digits hpc he.1 he.2 (by omega)
      · rw [length_regsUpTo] at hi
        exact .registers hpc he.1 (.inl he.2) (by omega)
  | loadRegisters herr =>
      obtain ⟨-, hi, rfl⟩ := h.readEach_error_iff.mp herr
      exact .registers hpc he.1 (.inr he.2) (by omega)

/-- Whatever is in the list makes a step fail. -/
theorem fails_of_faulty (h : p.Bounded) (hf : Faulty p fault) : ∃ q, Fails p fault q := by
  cases hf with
  | fetch hpc =>
      have hf : ¬ p.Fetches := fun hf => Int.not_lt.mpr hpc (h.fetches_iff.mp hf)
      exact ⟨_, .unfetched hf⟩
  | illegal hpc hu => exact ⟨_, .illegal (h.fetches_iff.mpr hpc) hu⟩
  | emptyStack hpc hopcode hs =>
      have hf := h.fetches_iff.mpr hpc
      have hat : p.At .returnFromCall := ⟨hf, (opcode_emod p).trans hopcode⟩
      rw [← h.wrap16_passed_sub hf]
      exact ⟨_, .cut hat (.emptyStack hs)⟩
  | noSuchKey hpc hp hnn hk =>
      have hf := h.fetches_iff.mpr hpc
      rcases hnn with hnn | hnn
      · have hat : p.At .skipIfKey := ⟨hf, hp, hnn⟩
        exact ⟨_, .cut hat (.noSuchKey (.inl rfl) hk)⟩
      · have hat : p.At .skipUnlessKey := ⟨hf, hp, hnn⟩
        exact ⟨_, .cut hat (.noSuchKey (.inr rfl) hk)⟩
  | draw hpc hp hn hi =>
      have hf := h.fetches_iff.mpr hpc
      have hat : p.At .draw := ⟨hf, hp⟩
      exact ⟨_, .cut hat (.draw ((h.passed hf).readEach_error_iff.mpr ⟨hn, hi, rfl⟩))⟩
  | digits hpc hp hnn hi =>
      have hf := h.fetches_iff.mpr hpc
      have hat : p.At .storeDigits := ⟨hf, hp, hnn⟩
      have hthree : (decimalDigits (p.passed.core.reg p.opcode.x)).length = 3 := rfl
      have herr := (h.passed hf).writeEach_error_iff.mpr
        ⟨by rw [hthree]; decide, by rw [hthree]; show 0xFFF < p.core.index + 3 - 1; omega, rfl⟩
      exact ⟨_, .cut hat (.store (.inl ⟨rfl, rfl⟩) herr)⟩
  | registers hpc hp hnn hi =>
      have hf := h.fetches_iff.mpr hpc
      have hreach : 1 ≤ p.opcode.x.val + 1 ∧
          0xFFF < p.core.index + (p.opcode.x.val + 1 : Nat) - 1 := by
        omega
      rcases hnn with hnn | hnn
      · have hat : p.At .storeRegisters := ⟨hf, hp, hnn⟩
        rw [← length_regsUpTo p.core] at hreach
        have herr := (h.passed hf).writeEach_error_iff.mpr ⟨hreach.1, hreach.2, rfl⟩
        exact ⟨_, .cut hat (.store (.inr ⟨rfl, rfl⟩) herr)⟩
      · have hat : p.At .loadRegisters := ⟨hf, hp, hnn⟩
        have herr := (h.passed hf).readEach_error_iff.mpr ⟨hreach.1, hreach.2, rfl⟩
        exact ⟨_, .cut hat (.loadRegisters herr)⟩

/-! ### Programs fault as listed -/

/-- A program that stores two registers where memory has room for one. -/
def overrunImage : Array UInt8 := #[0x60, 0x07, 0xAF, 0xFF, 0xF1, 0x55]

theorem fits_overrunImage : FitsProgramSpace overrunImage := by decide

/-- The processor that is about to do so. -/
def overrunner : Processor :=
  { loaded overrunImage plainSetup with
    core := { Core.initial.setReg 0 0x07 with pc := 0x204, index := 0xFFF }
    completed := 2 }

theorem reachable_overrunner : Reachable plainSetup overrunner := by
  have hload : Reachable plainSetup { loaded overrunImage plainSetup with
      core := { Core.initial.setReg 0 0x07 with pc := 0x202 }
      completed := 1 } :=
    Reachable.step_of_image fits_overrunImage rfl (k := 0) rfl (by decide) rfl
      (reachable_loaded fits_overrunImage) rfl rfl rfl rfl rfl
  exact Reachable.step_of_image fits_overrunImage rfl (k := 2) rfl (by decide) rfl hload rfl rfl rfl
    rfl rfl

theorem opcode_overrunner : overrunner.opcode = 0xF155 :=
  opcode_of_image fits_overrunImage rfl (k := 4) rfl (by decide)

theorem faulty_overrunner : Faulty overrunner (.access ⟨0x1000, 0, 0xFFF⟩) := by
  show Faulty overrunner (.access ⟨max overrunner.core.index 0x1000, 0, 0xFFF⟩)
  refine .registers (by decide) ?_ ?_ ?_
  · rw [opcode_overrunner]
    decide
  · rw [opcode_overrunner]
    decide
  · rw [opcode_overrunner]
    decide

variable {setup : Setup}

/--
**A reachable processor that runs the console's own instructions faults exactly as
listed**, and with exactly the fault that is listed.
-/
theorem step_error_iff (h : Reachable setup p) (ht : setup.table = .standard)
    (hn : p.halted = false) (fault : Fault) :
    p.step.1.toExcept = .error fault ↔ Faulty p fault := by
  have hb := h.bounded
  rw [error_iff_fails hb (h.table.trans ht) hn]
  constructor
  · rintro ⟨q, hs⟩
    cases hs with
    | unfetched hf => exact .fetch (Int.not_lt.mp fun hlt => hf (hb.fetches_iff.mpr hlt))
    | illegal hf hu => exact .illegal (hb.fetches_iff.mp hf) hu
    | cut hat hc => exact faulty_of_cutShort hb hat hc
  · exact fails_of_faulty hb

/-- The second register meets the first address behind memory. -/
theorem step_error_overrunner :
    overrunner.step.1.toExcept = .error (.access ⟨0x1000, 0, 0xFFF⟩) :=
  (step_error_iff reachable_overrunner rfl rfl _).mpr faulty_overrunner

end Chip8.Processor
