/-
One instruction after the other.

A step fetches the word at the program counter, moves the program counter past it,
looks the word up and carries it out.  A fault anywhere on the way stops the
processor for good: it keeps what was done up to then, and every later step fails at
once and changes nothing.

A run is a number of steps, up to the first that fails.  It returns a record of every
step it tried, from which traces and diagnostics are made; the run itself does not
depend on who reads them.
-/
import Chip8.Processor.Execute

namespace Chip8

/-- What became of a step. -/
inductive StepOutcome where
  /-- The instruction was completed. -/
  | completed (decoded : Decoded)
  /-- A fault, and the instruction if one had been decoded by then. -/
  | failed (fault : Fault) (reached : Option Decoded)

namespace StepOutcome

/-- The instruction that was decoded, completed or not. -/
def decoded? : StepOutcome → Option Decoded
  | completed decoded => some decoded
  | failed _ reached => reached

/-- The completed instruction or the fault. -/
def toExcept : StepOutcome → Except Fault Decoded
  | completed decoded => .ok decoded
  | failed fault _ => .error fault

end StepOutcome

/-- One step of a run: the core just before it and what became of it. -/
structure StepRecord where
  before : Core
  outcome : StepOutcome

namespace Processor

/-- The processor, stopped. -/
def halt (p : Processor) : Processor := { p with halted := true }

/-- The processor with the program counter past the next instruction. -/
def passed (p : Processor) : Processor := { p with core := p.core.advance 2 }

/-- Carries out one instruction. -/
def step (p : Processor) : StepOutcome × Processor :=
  if p.halted then (.failed .halted none, p)
  else
    match p.memory.readWord p.core.pc with
    | .error e => (.failed (.access e) none, p.halt)
    | .ok word =>
      match p.table.lookup word with
      | none => (.failed (.illegal word p.core.pc) none, p.passed.halt)
      | some instruction =>
        let decoded : Decoded := ⟨word, instruction⟩
        match p.passed.execute decoded with
        | ⟨p, none⟩ => (.completed decoded, { p with completed := p.completed + 1 })
        | ⟨p, some fault⟩ => (.failed fault (some decoded), p.halt)

/-- What a run leaves behind. -/
structure Run where
  /-- One record for each step that was tried. -/
  records : Array StepRecord
  /-- The fault of the last step, if it failed. -/
  fault : Option Fault
  processor : Processor

/-- Continues a run by so many steps, up to the first that fails. -/
def runFrom (records : Array StepRecord) : Nat → Processor → Run
  | 0, p => ⟨records, none, p⟩
  | count + 1, p =>
    let before := p.core
    match p.step with
    | (.completed decoded, p) => runFrom (records.push ⟨before, .completed decoded⟩) count p
    | (.failed fault reached, p) =>
      ⟨records.push ⟨before, .failed fault reached⟩, some fault, p⟩

/-- Carries out so many instructions, up to the first that fails. -/
def run (count : Nat) (p : Processor) : Run := runFrom #[] count p

/-- The number of instructions a run completed. -/
def Run.completed (r : Run) : Nat := r.records.size - (if r.fault.isSome then 1 else 0)

/-! ### A stopped processor stays as it is -/

theorem step_of_halted {p : Processor} (h : p.halted = true) :
    p.step = (.failed .halted none, p) := by
  simp [step, h]

/-! ### A run goes step by step -/

theorem run_zero (p : Processor) : p.run 0 = ⟨#[], none, p⟩ := rfl

/-- The records of a run come after those it starts from. -/
theorem runFrom_eq (records : Array StepRecord) (count : Nat) (p : Processor) :
    runFrom records count p
      = { p.run count with records := records ++ (p.run count).records } := by
  induction count generalizing records p with
  | zero => simp [run, runFrom]
  | succ count ih =>
    rw [run, runFrom, runFrom]
    rcases p.step with ⟨outcome, q⟩
    cases outcome with
    | completed decoded =>
      dsimp only
      rw [ih, ih (#[].push _)]
      simp
    | failed fault reached => simp

/-- A run of one more step begins with that step and goes on from what it leaves. -/
theorem run_succ_of_completed {p q : Processor} {decoded : Decoded}
    (h : p.step = (.completed decoded, q)) (count : Nat) :
    p.run (count + 1)
      = { q.run count with
          records := #[⟨p.core, .completed decoded⟩] ++ (q.run count).records } := by
  rw [run, runFrom, h]
  dsimp only
  rw [runFrom_eq]
  rfl

theorem run_succ_of_failed {p q : Processor} {fault : Fault} {reached : Option Decoded}
    (h : p.step = (.failed fault reached, q)) (count : Nat) :
    p.run (count + 1) = ⟨#[⟨p.core, .failed fault reached⟩], some fault, q⟩ := by
  rw [run, runFrom, h]
  rfl

end Processor

end Chip8
