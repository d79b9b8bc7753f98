/-
What is true of every processor a program can bring about.

The host steps, ticks, presses keys and acknowledges the screen in any order; a
processor is reachable if some program and some such requests lead to it.  Whatever
holds of a loaded program and outlives every request holds of them all: the bounds do,
and the table never changes.

A step whose instruction is still as the program has it can be followed without looking
at memory (`Reachable.step_of_image`); that is how processors are shown to be reached.
-/
import Chip8.Proofs.Bounds
import Chip8.Proofs.Program

namespace Chip8

/-- The keypad after the key with a number went down or up, if there is such a key. -/
def Keypad.press (k : Keypad) (index : Int) (down : Bool) : Keypad :=
  ((key? index).map fun key => k.set key down).getD k

namespace Processor

variable {p q : Processor}

/-! ### What the host can bring about -/

/-- What the host can ask of a processor. -/
inductive Request where
  | step
  | tick
  /-- A key with a number goes down or up. -/
  | press (index : Int) (down : Bool)
  | acknowledge

/-- The processor after a request; a key that does not exist changes nothing. -/
def serve (p : Processor) : Request → Processor
  | .step => p.step.2
  | .tick => p.tick
  | .press index down =>
    match p.press index down with
    | .ok q => q
    | .error _ => p
  | .acknowledge => p.acknowledge

/-- A key that goes down or up changes the keypad at most. -/
theorem serve_press (p : Processor) (index : Int) (down : Bool) :
    p.serve (.press index down) = { p with keypad := p.keypad.press index down } := by
  rw [serve, press, Keypad.press]
  cases Keypad.key? index with
  | some key => rfl
  | none => rfl

/-- The processors that programs set up in one way can be brought to. -/
inductive Reachable (setup : Setup) : Processor → Prop
  | start {image : Array UInt8} {p : Processor} (h : start image setup = .ok p) :
      Reachable setup p
  | serve {p : Processor} (h : Reachable setup p) (request : Request) :
      Reachable setup (p.serve request)

theorem start_eq_ok_iff {image : Array UInt8} {setup : Setup} :
    start image setup = .ok p ↔ FitsProgramSpace image ∧ p = loaded image setup := by
  unfold start
  by_cases hfit : FitsProgramSpace image
  · rw [if_pos hfit, Except.ok.injEq]
    constructor
    · intro h
      exact ⟨hfit, h.symm⟩
    · intro h
      exact h.2.symm
  · rw [if_neg hfit]
    constructor
    · intro h
      cases h
    · intro h
      exact absurd h.1 hfit

theorem bounded_loaded {image : Array UInt8} (h : FitsProgramSpace image) (setup : Setup) :
    (loaded image setup).Bounded where
  core := Core.Bounded.initial
  start := rfl
  size := Memory.size_loaded h
  width := rfl
  height := rfl

theorem Bounded.serve (h : p.Bounded) (request : Request) : (p.serve request).Bounded := by
  cases request with
  | step => exact h.step
  | tick => exact h.tick
  | press index down =>
    rw [serve_press]
    exact { h with }
  | acknowledge => exact { h with }

variable {setup : Setup}

theorem Reachable.bounded (h : Reachable setup p) : p.Bounded := by
  induction h with
  | start h =>
      obtain ⟨hfit, rfl⟩ := start_eq_ok_iff.mp h
      exact bounded_loaded hfit setup
  | serve _ request ih => exact ih.serve request

/-- The table stays as it was set up. -/
theorem table_serve (p : Processor) (request : Request) : (p.serve request).table = p.table := by
  cases request with
  | step =>
    rw [Processor.serve]
    cases hn : p.halted with
    | true => rw [step_of_halted hn]
    | false => exact table_of_steps (steps_of_running hn)
  | press index down => rw [serve_press]
  | tick | acknowledge => rfl

theorem Reachable.table (h : Reachable setup p) : p.table = setup.table := by
  induction h with
  | start h =>
      obtain ⟨-, rfl⟩ := start_eq_ok_iff.mp h
      rfl
  | serve _ request ih => exact (table_serve _ request).trans ih

/-- Under the standard table the digits of the opcode tell which operation is next. -/
theorem Reachable.next_iff (h : Reachable setup p) (ht : setup.table = .standard)
    (op : Operation) : p.Next op ↔ p.Fetches ∧ p.opcode.Encodes op :=
  next_iff_at (h.table.trans ht) op

/-! ### Steps of a known program -/

variable {image : Array UInt8}

section

variable (hfit : FitsProgramSpace image)
  (hm : p.memory = Memory.loaded image) {k : Nat} (hpc : p.core.pc = 0x200 + k)
  (hk : k + 1 < image.size)

include hfit hm hpc hk

theorem fetches_of_image : p.Fetches := by
  have hend := hfit.2
  unfold maxProgramSize memorySize programStart at hend
  rw [Fetches, hm, hpc, Memory.Contains, Memory.Contains, Memory.start_loaded,
    Memory.size_loaded hfit, memorySize]
  omega

theorem opcode_of_image :
    p.opcode = ((image.getD k 0).toNat * 256 + (image.getD (k + 1) 0).toNat : Nat) := by
  rw [opcode, hm, Memory.word, Memory.byte_loaded hfit, Memory.byte_loaded hfit,
    if_pos (by omega), if_pos (by omega), show (p.core.pc - 0x200).toNat = k by omega,
    show (p.core.pc + 1 - 0x200).toNat = k + 1 by omega]

variable {word : Opcode}
  (hw : ((image.getD k 0).toNat * 256 + (image.getD (k + 1) 0).toNat : Nat) = word)

include hw

theorem at_of_image {op : Operation} (he : word.Encodes op) : p.At op := by
  refine ⟨fetches_of_image hfit hm hpc hk, ?_⟩
  rw [opcode_of_image hfit hm hpc hk, hw]
  exact he

/-- A step whose instruction is still as the program has it. -/
theorem Reachable.step_of_image (h : Reachable setup p) (hn : p.halted = false)
    {i : Instruction} (hl : p.table.lookup word = some i) {op : Operation}
    (hr : i.routine = .operation op) (hp : p.passed.perform op word = ⟨q, none⟩)
    {next : Processor} (hnext : { q with completed := p.completed + 1 } = next) :
    Reachable setup next := by
  rw [← hw, ← opcode_of_image hfit hm hpc hk] at hl hp
  have hstep := step_of_steps hn (.completed (fetches_of_image hfit hm hpc hk) hl hr hp)
  have hserve := h.serve .step
  rw [Processor.serve, hstep] at hserve
  exact hnext ▸ hserve

end

/-- A set-up whose random numbers are all zero. -/
def plainSetup : Setup := { random := .sequence (fun _ => 0) 0 }

theorem reachable_loaded (hfit : FitsProgramSpace image) : Reachable setup (loaded image setup) :=
  .start (start_eq_ok_iff.mpr ⟨hfit, rfl⟩)

/-- A program that jumps as high as a program can. -/
def highJump : Array UInt8 := #[0x60, 0xFF, 0xBF, 0xFF]

theorem reachable_highJump :
    Reachable plainSetup { loaded highJump plainSetup with
      core := { Core.initial.setReg 0 0xFF with pc := 0x10FE }
      completed := 2 } := by
  have hfit : FitsProgramSpace highJump := by decide
  have hload : Reachable plainSetup { loaded highJump plainSetup with
      core := { Core.initial.setReg 0 0xFF with pc := 0x202 }
      completed := 1 } :=
    Reachable.step_of_image hfit rfl (k := 0) rfl (by decide) rfl (reachable_loaded hfit) rfl rfl
      rfl rfl rfl
  exact Reachable.step_of_image hfit rfl (k := 2) rfl (by decide) rfl hload rfl rfl rfl rfl rfl

/-! ### The bounds of what can be reached -/

/--
**Every reachable processor is within bounds**, whatever its table, its jump option and
its random numbers; and so the program counter is never changed by cutting it to sixteen
bits, not by the fetch, a skip, the repetition of a wait for a key or a jump with an
offset.
-/
theorem reachable_bounds (h : Reachable setup p) :
    (p.core.v.toList.length = 16 ∧ ∀ value ∈ p.core.v.toList, value.toNat ≤ 255) ∧
    (0 ≤ p.core.index ∧ p.core.index ≤ 0xFFFF) ∧
    (0 ≤ p.core.pc ∧ p.core.pc ≤ 0x10FE) ∧
    (∀ address ∈ p.core.stack, 2 ≤ address ∧ address ≤ 0x1000) ∧
    p.core.stack.length ≤ p.completed ∧
    (p.core.delay.toNat ≤ 255 ∧ p.core.sound.toNat ≤ 255) ∧
    (p.memory.start = 0 ∧ p.memory.cells.size = 4096) ∧
    (p.screen.width = 64 ∧ p.screen.height = 32 ∧ p.screen.cells.size = 2048) ∧
    p.keypad.held.toList.length = 16 ∧
    wrap16 (p.core.pc + 2) = p.core.pc + 2 ∧
    wrap16 (p.passed.core.pc + 2) = p.passed.core.pc + 2 ∧
    wrap16 (p.passed.core.pc - 2) = p.passed.core.pc - 2 ∧
    ∀ opcode : Opcode, wrap16 (opcode.nnn + (p.passed.core.reg 0).toNat)
      = opcode.nnn + (p.passed.core.reg 0).toNat := by
  have hb := h.bounded
  have hpc := hb.core.pc_nonneg
  have hpc' := hb.core.pc_le
  have hpassed : p.passed.core.pc = p.core.pc + 2 := wrap16_eq (by omega) (by omega)
  have hbyte : ∀ value : UInt8, value.toNat ≤ 255 := fun value => by
    have := value.toNat_lt
    omega
  refine ⟨⟨p.core.v.length_toList, fun value _ => hbyte value⟩,
    ⟨hb.core.index_nonneg, hb.core.index_le⟩, ⟨hpc, hpc'⟩, hb.core.stack, hb.core.depth,
    ⟨hbyte _, hbyte _⟩, ⟨hb.start, hb.size⟩, ⟨hb.width, hb.height, ?_⟩,
    p.keypad.held.length_toList, ?_, ?_, ?_, fun opcode => ?_⟩
  · rw [p.screen.size_eq, hb.width, hb.height]
  · exact wrap16_eq (by omega) (by omega)
  · exact wrap16_eq (by omega) (by omega)
  · exact wrap16_eq (by omega) (by omega)
  · have hnnn := opcode.nnn_lt
    have hv := hbyte (p.passed.core.reg 0)
    exact wrap16_eq (by omega) (by omega)

/-- Even the highest program counter that can be reached is not cut by a skip. -/
theorem reachable_bounds_highJump :
    ∃ p, Reachable plainSetup p ∧ p.core.pc = 0x10FE ∧
      wrap16 (p.passed.core.pc + 2) = p.passed.core.pc + 2 := by
  obtain ⟨-, -, -, -, -, -, -, -, -, -, hskip, -⟩ := reachable_bounds reachable_highJump
  exact ⟨_, reachable_highJump, rfl, hskip⟩

end Processor

end Chip8
