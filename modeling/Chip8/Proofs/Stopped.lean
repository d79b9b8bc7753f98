/-
What a fault leaves for good.

A fault stops the processor, and a stopped processor keeps all that a program could see or
change (`Frozen`): no request makes it run again.  The host still ticks the timers, moves
keys and acknowledges the screen, so these alone are left out.

Of a stopped console every step fails, and so does every frame that has room for one; it
changes nothing but the history, which sees another failed step.  A frame without room for
a step is a frame like any other.
-/
import Chip8.Proofs.Footprint
import Chip8.Proofs.Frame

namespace Chip8

namespace Processor

variable {p q : Processor} {fault : Fault} {reached : Option Decoded}

/-- Whether a processor is stopped and has kept what a program can see or change. -/
structure Frozen (p q : Processor) : Prop where
  halted : q.halted = true
  v : q.core.v = p.core.v
  index : q.core.index = p.core.index
  pc : q.core.pc = p.core.pc
  stack : q.core.stack = p.core.stack
  memory : q.memory = p.memory
  screen : q.screen = p.screen
  table : q.table = p.table
  truncateJump : q.truncateJump = p.truncateJump
  random : q.random = p.random
  completed : q.completed = p.completed

theorem Frozen.refl (h : p.halted = true) : Frozen p p :=
  ⟨h, rfl, rfl, rfl, rfl, rfl, rfl, rfl, rfl, rfl, rfl⟩

theorem Frozen.tick (h : Frozen p q) : Frozen p q.tick := { h with }

theorem Frozen.serve (h : Frozen p q) (request : Request) : Frozen p (q.serve request) := by
  cases request with
  | step =>
    rw [serve_step, step_of_halted h.halted]
    exact h
  | tick => exact h.tick
  | press index down =>
    rw [serve_press]
    exact { h with }
  | acknowledge => exact { h with }

/-- Whatever makes a step fail, it stops the processor. -/
theorem halted_of_failed (h : p.step = (.failed fault reached, q)) : q.halted = true := by
  cases hn : p.halted with
  | true =>
      rw [step_of_halted hn] at h
      cases h
      exact hn
  | false =>
      have hs := (step_iff hn).mp h
      cases hs with
      | unfetched | illegal | unknown | cut => rfl

end Processor

namespace Console

open Processor (Frozen Completes)

variable {c : Console} {p q : Processor} {fault : Fault}

/-! ### Frames of a stopped console -/

/-- A frame without room for a step only ticks. -/
theorem runFrame_of_perFrame_zero (h : c.clock.perFrame = 0) :
    c.runFrame.outcome = .ok 0 ∧
      c.runFrame.console
        = { c with
            processor := c.processor.tick
            frames := c.frames + 1
            sounding := c.processor.sounding } := by
  rw [runFrame, h, Processor.run_zero]
  refine ⟨rfl, ?_⟩
  show { c with processor := _, history := c.recorded #[], frames := _, sounding := _ } = _
  rw [recorded_nil]

/-- A frame with room for a step fails at once and records that it did. -/
theorem runFrame_of_halted (hn : c.processor.halted = true) (h : 1 ≤ c.clock.perFrame) :
    c.runFrame.outcome = .error .halted ∧
      c.runFrame.console
        = { c with
            history := c.history.map fun history =>
              history.push (Entry.make c.processor.core.snapshot none "" "fault") } := by
  obtain ⟨more, hmore⟩ : ∃ more, c.clock.perFrame = more + 1 := ⟨c.clock.perFrame - 1, by omega⟩
  rw [runFrame, hmore, Processor.run_succ_of_failed (Processor.step_of_halted hn)]
  exact ⟨rfl, rfl⟩

theorem frozen_runFrame (h : Frozen p c.processor) : Frozen p c.runFrame.console.processor := by
  rcases Nat.eq_zero_or_pos c.clock.perFrame with hzero | hpos
  · rw [(runFrame_of_perFrame_zero hzero).2]
    exact h.tick
  · rw [(runFrame_of_halted h.halted hpos).2]
    exact h

theorem frozen_serve (h : Frozen p c.processor) (request : Request) :
    Frozen p (c.serve request).processor := by
  cases request with
  | frame => exact frozen_runFrame h
  | ask request => exact h.serve request
  | retime clock _ => exact h

theorem frozen_serveEach (h : Frozen p c.processor) (requests : List Request) :
    Frozen p (c.serveEach requests).processor := by
  induction requests generalizing c with
  | nil => exact h
  | cons request rest ih => exact ih (frozen_serve h request)

/-! ### After a fault -/

/-- What a stopped console is, and what it does with a step or a frame. -/
structure Stopped (p : Processor) (c : Console) : Prop where
  frozen : Frozen p c.processor
  step : c.processor.step = (.failed .halted none, c.processor)
  serve_step : c.serve (.ask .step) = c
  /-- A frame with room for a step leaves only an entry of one that failed. -/
  frame : 1 ≤ c.clock.perFrame → c.runFrame.outcome = .error .halted ∧
    c.runFrame.console
      = { c with
          history := c.history.map fun history =>
            history.push (Entry.make c.processor.core.snapshot none "" "fault") }
  /-- A frame without room for one notes whether the tone is due and ticks. -/
  emptyFrame : c.clock.perFrame = 0 → c.runFrame.outcome = .ok 0 ∧
    c.runFrame.console
      = { c with
          processor := c.processor.tick
          frames := c.frames + 1
          sounding := c.processor.sounding }

theorem Stopped.of_frozen (h : Frozen p c.processor) : Stopped p c where
  frozen := h
  step := Processor.step_of_halted h.halted
  serve_step := by
    rw [serve, Processor.serve_step, Processor.step_of_halted h.halted]
  frame hpos := runFrame_of_halted h.halted hpos
  emptyFrame hzero := runFrame_of_perFrame_zero hzero

/--
**A fault cuts a frame just where it happens and stops the console for good.**  A frame
fails exactly if one of its steps does, behind some that are completed.  It leaves what
that step leaves, without a tick, and the notes about the last frame stay as they are; and
whatever the host asks for after that, the console stays stopped.
-/
theorem fault_stops (c : Console) (fault : Fault) :
    (c.runFrame.outcome = .error fault ↔ ∃ k q, c.CutAt k fault q) ∧
    ∀ k q, c.CutAt k fault q →
      c.runFrame.records.size = k + 1 ∧
      c.runFrame.console
        = { c with processor := q, history := c.runFrame.console.history } ∧
      ∀ requests, Stopped q (c.runFrame.console.serveEach requests) := by
  refine ⟨runFrame_error_iff, ?_⟩
  intro k q hcut
  obtain ⟨-, hsize, hconsole⟩ := runFrame_of_cutAt hcut
  obtain ⟨-, p, reached, -, hstep⟩ := hcut
  have hq : c.runFrame.console.processor = q := by rw [hconsole]
  -- The invariant begins with what the failing step left, not with the frame before it.
  have hfrozen : Frozen q c.runFrame.console.processor := by
    rw [hq]
    exact .refl (Processor.halted_of_failed hstep)
  refine ⟨hsize, ?_, ?_⟩
  · rw [hconsole]
  · intro requests
    exact .of_frozen (frozen_serveEach hfrozen requests)

end Console

namespace Processor

/-- A program whose second instruction returns without a call. -/
def lateReturn : Array UInt8 := #[0x60, 0x01, 0x00, 0xEE]

theorem fits_lateReturn : FitsProgramSpace lateReturn := by decide

/-- The processor that is about to return. -/
def lateReturner : Processor :=
  { loaded lateReturn plainSetup with
    core := { Core.initial.setReg 0 0x01 with pc := 0x202 }
    completed := 1 }

theorem step_lateReturn :
    ∃ decoded, (loaded lateReturn plainSetup).step = (.completed decoded, lateReturner) := by
  have hat : (loaded lateReturn plainSetup).At .loadImmediate :=
    at_of_image fits_lateReturn rfl (k := 0) rfl (by decide) rfl (by decide)
  have hopcode : (loaded lateReturn plainSetup).opcode = 0x6001 :=
    opcode_of_image fits_lateReturn rfl (k := 0) rfl (by decide)
  obtain ⟨i, hstep⟩ := step_of_at rfl rfl hat rfl
  rw [hopcode] at hstep
  exact ⟨_, hstep⟩

theorem step_lateReturner :
    ∃ q reached, lateReturner.step = (.failed (.emptyStack 0x202) reached, q) := by
  have hb : lateReturner.Bounded :=
    { bounded_loaded fits_lateReturn plainSetup with
      core := ⟨by decide, by decide, by decide, by decide, by decide, by decide⟩ }
  have hopcode : lateReturner.opcode = 0x00EE :=
    opcode_of_image fits_lateReturn rfl (k := 2) rfl (by decide)
  have hfaulty : Faulty lateReturner (.emptyStack lateReturner.core.pc) :=
    .emptyStack (by decide) hopcode rfl
  obtain ⟨q, hfails⟩ := fails_of_faulty hb hfaulty
  obtain ⟨reached, hstep⟩ := step_of_fails hb rfl rfl hfails
  exact ⟨q, reached, hstep⟩

end Processor

namespace Console

/-- A console that runs this program and keeps a history. -/
def lateConsole : Console :=
  around (Processor.loaded Processor.lateReturn Processor.plainSetup) Clock.standard
    (some (History.empty 4))

/-- A clock too slow for an instruction in each frame. -/
def slowClock : Clock := ⟨30, 60⟩

/--
The second step of the frame fails.  Afterwards a frame with room for a step fails too, and
one without room does not.
-/
theorem fault_stops_lateConsole :
    lateConsole.runFrame.outcome = .error (.emptyStack 0x202) ∧
      lateConsole.runFrame.records.size = 2 ∧ lateConsole.runFrame.console.frames = 0 ∧
      (lateConsole.serveEach [.frame]).runFrame.outcome = .error .halted ∧
      (lateConsole.serveEach [.frame, .retime slowClock (by decide)]).runFrame.outcome = .ok 0 := by
  obtain ⟨decoded, hfirst⟩ := Processor.step_lateReturn
  obtain ⟨q, reached, hsecond⟩ := Processor.step_lateReturner
  have hcut : lateConsole.CutAt 1 (.emptyStack 0x202) q :=
    ⟨by decide, _, reached, .step hfirst (.refl _), hsecond⟩
  obtain ⟨herror, hall⟩ := fault_stops lateConsole (.emptyStack 0x202)
  obtain ⟨hsize, hconsole, hlater⟩ := hall 1 q hcut
  refine ⟨herror.mpr ⟨1, q, hcut⟩, hsize, ?_, ?_, ?_⟩
  · rw [hconsole]
    rfl
  · have hroom : 1 ≤ (lateConsole.runFrame.console.serveEach []).clock.perFrame := by
      rw [serveEach_nil, hconsole]
      show 1 ≤ Clock.standard.perFrame
      decide
    rw [serveEach_cons, serve_frame]
    exact ((hlater []).frame hroom).1
  · have hnone : (lateConsole.runFrame.console.serveEach
        [.retime slowClock (by decide)]).clock.perFrame = 0 := by
      rw [serveEach_cons, serve_retime, serveEach_nil]
      show slowClock.perFrame = 0
      decide
    rw [serveEach_cons, serve_frame]
    exact ((hlater _).emptyFrame hnone).1

end Console

end Chip8
