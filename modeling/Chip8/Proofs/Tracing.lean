/-
A history only watches.

A frame is told here turn by turn (`turns`).  A turn of a console without a history is a
bare step.  With a history it keeps the state before the step and enters it together with
what became of the step, and a step that fails is entered before its fault goes on to the
host.  `runFrame_eq_turns` says that frames do go like this, although a run hands all its
records over at its end.

The two kinds of turn differ in the history alone (`turn_untraced`), and so does all that
is made of them: a frame, a request and any number of requests.
-/
import Chip8.Proofs.Requests

namespace Chip8

namespace History

theorem append_append (h : History) (entries more : List Entry) :
    (h.append entries).append more = h.append (entries ++ more) := by
  rw [append_eq_foldl, append_eq_foldl, append_eq_foldl, List.foldl_append]

end History

/-- What a frame returns or raises, and what it leaves. -/
def Frame.result (f : Frame) : Except Fault Nat × Console := (f.outcome, f.console)

namespace Console

variable {c : Console}

/-! ### Frames turn by turn -/

/-- One step of a frame, and its entry if there is a history. -/
def turn (c : Console) : StepOutcome × Console :=
  match c.history with
  | none =>
    let (outcome, p) := c.processor.step
    (outcome, { c with processor := p })
  | some history =>
    let before := c.processor.core.snapshot
    match c.processor.step with
    | (.completed decoded, p) =>
      let entry := Entry.make before (some decoded.opcode) decoded.instruction.mnemonic ""
      (.completed decoded, { c with processor := p, history := some (history.push entry) })
    | (.failed fault reached, p) =>
      let entry := Entry.make before none "" "fault"
      (.failed fault reached, { c with processor := p, history := some (history.push entry) })

/-- The console after the last step of a frame. -/
def finish (c : Console) : Console :=
  { c with
    processor := c.processor.tick
    frames := c.frames + 1
    sounding := c.processor.sounding }

/-- So many turns of a frame that has executed some instructions already. -/
def turns (executed : Nat) : Nat → Console → Except Fault Nat × Console
  | 0, c => (.ok executed, c.finish)
  | count + 1, c =>
    match c.turn with
    | (.completed _, c) => turns (executed + 1) count c
    | (.failed fault _, c) => (.error fault, c)

/-- A turn steps and hands over the record of the step. -/
theorem turn_eq (c : Console) :
    c.turn = (c.processor.step.1, { c with
      processor := c.processor.step.2
      history := c.recorded #[⟨c.processor.core, c.processor.step.1⟩] }) := by
  rw [turn, recorded]
  cases c.history with
  | none => rfl
  | some history =>
      rcases c.processor.step with ⟨decoded | ⟨fault, reached⟩, p⟩
      · rfl
      · rfl

/-- Only the history decides what becomes of records. -/
theorem recorded_append {d : Console} {records : Array StepRecord}
    (h : d.history = c.recorded records) (more : Array StepRecord) :
    d.recorded more = c.recorded (records ++ more) := by
  rw [recorded, h, recorded, recorded]
  cases c.history with
  | none => rfl
  | some history =>
      rw [Option.map_some, Option.map_some, Option.map_some, History.append_append,
        Array.toList_append, List.map_append]

/-- What a frame makes of a run when it has executed some instructions before. -/
def ended (c : Console) (executed : Nat) (run : Processor.Run) : Except Fault Nat × Console :=
  match run.fault with
  | some fault =>
    (.error fault, { c with processor := run.processor, history := c.recorded run.records })
  | none =>
    (.ok (executed + run.records.size),
      finish { c with processor := run.processor, history := c.recorded run.records })

theorem result_runFrame (c : Console) :
    c.runFrame.result = c.ended 0 (c.processor.run c.clock.perFrame) := by
  rw [runFrame, ended, Frame.result]
  cases (c.processor.run c.clock.perFrame).fault with
  | none =>
      rw [Nat.zero_add]
      rfl
  | some fault => rfl

/-- Behind a completed step a frame goes on as if it began there. -/
theorem ended_of_completed (c : Console) (q : Processor) (record : StepRecord)
    (executed : Nat) (r : Processor.Run) :
    ({ c with processor := q, history := c.recorded #[record] } : Console).ended (executed + 1) r
      = c.ended executed { r with records := #[record] ++ r.records } := by
  have hrecorded :
      ({ c with processor := q, history := c.recorded #[record] } : Console).recorded r.records
        = c.recorded (#[record] ++ r.records) := recorded_append rfl r.records
  rw [ended, ended]
  cases r.fault with
  | none =>
      have hsize : executed + 1 + r.records.size
          = executed + (#[record] ++ r.records).size := by
        rw [Array.size_append, Nat.add_assoc]
        rfl
      rw [hrecorded, hsize]
  | some fault =>
      rw [hrecorded]

theorem turns_eq (count executed : Nat) (c : Console) :
    turns executed count c = c.ended executed (c.processor.run count) := by
  induction count generalizing executed c with
  | zero =>
      rw [turns, Processor.run_zero, ended, recorded_nil]
      rfl
  | succ count ih =>
      rw [turns, turn_eq]
      rcases hstep : c.processor.step with ⟨decoded | ⟨fault, reached⟩, q⟩
      · -- The run keeps its first record until the end; the turn has entered it already.
        rw [Processor.run_succ_of_completed hstep]
        exact (ih _ _).trans (ended_of_completed c q _ executed (q.run count))
      · rw [Processor.run_succ_of_failed hstep]
        rfl

/-- **A frame goes turn by turn**, each turn of it recorded before the next. -/
theorem runFrame_eq_turns (c : Console) : c.runFrame.result = turns 0 c.clock.perFrame c := by
  rw [result_runFrame, turns_eq]

/-! ### Without the history -/

/-- The console with its history taken away. -/
def untraced (c : Console) : Console := { c with history := none }

theorem turn_untraced (c : Console) : c.untraced.turn = (c.turn.1, c.turn.2.untraced) := by
  rw [turn_eq, turn_eq]
  rfl

theorem turns_untraced (executed count : Nat) (c : Console) :
    turns executed count c.untraced
      = ((turns executed count c).1, (turns executed count c).2.untraced) := by
  induction count generalizing executed c with
  | zero => rfl
  | succ count ih =>
      rw [turns, turns, turn_untraced]
      rcases c.turn with ⟨decoded | ⟨fault, reached⟩, next⟩
      · exact ih (executed + 1) next
      · rfl

theorem result_untraced (c : Console) :
    c.untraced.runFrame.result = (c.runFrame.outcome, c.runFrame.console.untraced) := by
  have hturns := turns_untraced 0 c.clock.perFrame c
  rw [← runFrame_eq_turns c] at hturns
  rw [runFrame_eq_turns]
  exact hturns

theorem answer_untraced (c : Console) (request : Request) :
    c.untraced.answer request = c.answer request := by
  cases request with
  | frame => exact congrArg (fun result => Answer.frame result.1) (result_untraced c)
  | ask request => cases request <;> rfl
  | retime clock _ => rfl

theorem serve_untraced (c : Console) (request : Request) :
    c.untraced.serve request = (c.serve request).untraced := by
  cases request with
  | frame => exact congrArg Prod.snd (result_untraced c)
  | ask request => rfl
  | retime clock _ => rfl

theorem trajectory_untraced (c : Console) (requests : List Request) :
    c.untraced.trajectory requests
      = (c.trajectory requests).map fun seen => (seen.1, seen.2.untraced) := by
  induction requests generalizing c with
  | nil => rfl
  | cons request rest ih =>
      rw [trajectory, trajectory, List.map_cons, answer_untraced, serve_untraced, ih]

/--
**A history only watches.**  Frames go turn by turn, recording each step if there is a
history.  With any history, whatever its capacity and its entries, a console answers every
request as it does without one, and it is in the same state after each, apart from the
history.
-/
theorem history_transparent (c : Console) (history : History) (requests : List Request) :
    (∀ d : Console, d.runFrame.result = turns 0 d.clock.perFrame d) ∧
    (({ c with history := some history } : Console).trajectory requests).map
        (fun seen => (seen.1, seen.2.untraced))
      = ({ c with history := none } : Console).trajectory requests := by
  refine ⟨runFrame_eq_turns, ?_⟩
  exact (trajectory_untraced { c with history := some history } requests).symm

end Console

end Chip8
