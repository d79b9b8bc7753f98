/-
The console: a processor with a clock.

The host shows a fixed number of frames a second.  In each frame the processor carries
out its share of the clock speed, then both timers count down once.  Whether the tone
is due is noted between the two, so a sound timer set to `n` in a frame stays audible
for `n` frames.

A fault cuts a frame short: the timers do not tick, and the notes about the frame stay
as they were.  A history, if there is one, records every step that was tried.
-/
import Chip8.History

namespace Chip8

/-- Instructions and frames per second. -/
structure Clock where
  speed : Int
  frameRate : Int

namespace Clock

/-- The speed and frame rate unless the host asks for others. -/
def standard : Clock := ⟨600, 60⟩

/-- The number of instructions in a frame. -/
def perFrame (c : Clock) : Nat := (c.speed.fdiv c.frameRate).toNat

/-- The number of instructions in a frame, if frames come at some rate. -/
def perFrame? (c : Clock) : Option Nat := if c.frameRate = 0 then none else some c.perFrame

end Clock

/-- Why a console cannot be set up. -/
inductive ConsoleError where
  /-- A speed below zero. -/
  | negativeSpeed (speed : Int)
  /-- A frame rate that is not positive. -/
  | badFrameRate (rate : Int)
  /-- An image that is no program. -/
  | badImage (error : BadImage)

/-- The complaint about the first bad setting. -/
def ConsoleError.message : ConsoleError → String
  | negativeSpeed speed => "clock speed must not be negative: " ++ toString speed
  | badFrameRate rate => "frame rate must be positive: " ++ toString rate
  | badImage error => error.message

/-- A processor with its clock and the notes about the last frame. -/
structure Console where
  processor : Processor
  clock : Clock
  history : Option History
  /-- The number of frames that were completed. -/
  frames : Nat
  /-- Whether the tone was due in the last completed frame. -/
  sounding : Bool

/-- A frame: the steps it tried, the number it completed or the fault, and what it left. -/
structure Frame where
  records : Array StepRecord
  outcome : Except Fault Nat
  console : Console

namespace Console

/-- The console around a processor. -/
def around (processor : Processor) (clock : Clock) (history : Option History) : Console :=
  ⟨processor, clock, history, 0, false⟩

/-- The console that is about to run a program image. -/
def start (image : Array UInt8) (setup : Processor.Setup) (clock : Clock)
    (history : Option History) : Except ConsoleError Console :=
  if clock.speed < 0 then .error (.negativeSpeed clock.speed)
  else if clock.frameRate ≤ 0 then .error (.badFrameRate clock.frameRate)
  else match Processor.start image setup with
    | .ok processor => .ok (around processor clock history)
    | .error e => .error (.badImage e)

/-- The history with the steps of a run added, if there is one. -/
def recorded (c : Console) (records : Array StepRecord) : Option History :=
  c.history.map fun h => h.append (records.toList.map Entry.ofRecord)

/-- Runs one frame. -/
def runFrame (c : Console) : Frame :=
  let run := c.processor.run c.clock.perFrame
  let history := c.recorded run.records
  match run.fault with
  | some fault =>
    ⟨run.records, .error fault, { c with processor := run.processor, history }⟩
  | none =>
    ⟨run.records, .ok run.records.size,
      { c with
        processor := run.processor.tick
        history
        frames := c.frames + 1
        sounding := run.processor.sounding }⟩

end Console

end Chip8
