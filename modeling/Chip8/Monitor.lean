/-
Running under diagnostics.

Two things are worth a line while a console runs: an instruction that was decoded, and
a key that went down or up.  The line of an instruction is printed whether or not the
instruction could be completed.  The functions here do what their namesakes without
diagnostics do and print on the side; what was printed never reaches the console.
-/
import Chip8.Console
import Chip8.Diagnostics

namespace Chip8

/-- Program counter and opcode have four digits in a diagnostic line. -/
def StepRecord.style : HexStyle := ⟨4, false, false⟩

/-- The diagnostic line of a step in which an instruction was decoded. -/
def StepRecord.notice (r : StepRecord) (decoded : Decoded) : String :=
  "pc=" ++ style.write r.before.pc ++ " opcode=" ++ style.write decoded.opcode ++ " "
    ++ decoded.instruction.mnemonic

/-- A key is named by its capital digit in a diagnostic line. -/
def Keypad.style : HexStyle := ⟨1, true, false⟩

/-- The diagnostic line of a key that went down or up. -/
def Keypad.notice (key : Fin 16) (down : Bool) : String :=
  "key=" ++ style.write key.val ++ " pressed=" ++ (TemplateValue.truth down).plain

namespace Diagnostics

/-- The diagnostics after a step; one that decoded no instruction does not even ask. -/
def logStep (d : Diagnostics) (r : StepRecord) : Diagnostics :=
  match r.outcome.decoded? with
  | none => d
  | some decoded =>
    let (enabled, d) := d.ask (some "cpu")
    if enabled then d.log "cpu" (r.notice decoded) else d

/-- The diagnostics after the steps of a run. -/
def logSteps (d : Diagnostics) (records : Array StepRecord) : Diagnostics :=
  records.foldl logStep d

/-- The diagnostics after a key went down or up. -/
def logKey (d : Diagnostics) (key : Fin 16) (down : Bool) : Diagnostics :=
  d.log "input" (Keypad.notice key down)

/-- The diagnostics after the newest lines of a history were offered. -/
def logHistory (d : Diagnostics) (category : String) (h : History) (limit : Option Int) :
    Diagnostics :=
  d.logEach category (h.lines limit)

end Diagnostics

/-- The keypad after the key with a number went down or up. -/
def Keypad.pressLogged (k : Keypad) (index : Int) (down : Bool) (d : Diagnostics) :
    Except Keypad.NoSuchKey (Keypad × Diagnostics) :=
  match Keypad.key? index with
  | some key => .ok (k.set key down, d.logKey key down)
  | none => .error ⟨index⟩

namespace Processor

/-- Carries out one instruction. -/
def stepLogged (p : Processor) (d : Diagnostics) : (StepOutcome × Processor) × Diagnostics :=
  let result := p.step
  (result, d.logSteps #[⟨p.core, result.1⟩])

/-- The processor after a key went down or up. -/
def holdLogged (p : Processor) (key : Fin 16) (down : Bool) (d : Diagnostics) :
    Processor × Diagnostics :=
  (p.hold key down, d.logKey key down)

/-- The processor after the key with a number went down or up. -/
def pressLogged (p : Processor) (index : Int) (down : Bool) (d : Diagnostics) :
    Except Keypad.NoSuchKey (Processor × Diagnostics) :=
  match Keypad.key? index with
  | some key => .ok (p.holdLogged key down d)
  | none => .error ⟨index⟩

end Processor

/-- Runs one frame. -/
def Console.runFrameLogged (c : Console) (d : Diagnostics) : Frame × Diagnostics :=
  let frame := c.runFrame
  (frame, d.logSteps frame.records)

end Chip8
