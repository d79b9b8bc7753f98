/-
The processor and the devices it drives.

`Core` is what a debugger would save: registers, index, program counter, call stack
and timers.  `Processor` adds memory, screen, keypad, the decode table and the source
of random numbers, and keeps three notes about its own run: how many instructions were
completed, whether a fault has stopped it, and whether the screen was drawn on since
the host last looked.

The program counter, the index and the call stack hold integers.  The program itself
keeps them in sixteen bits, but the host may put any number there.
-/
import Chip8.Screen
import Chip8.Keypad
import Chip8.Program
import Chip8.InstructionSet
import Chip8.Random.Source

namespace Chip8

/-- The lowest sixteen bits of a number. -/
def wrap16 (n : Int) : Int := n % 0x10000

/-- Registers, call stack and timers. -/
structure Core where
  v : Vector UInt8 16
  index : Int
  pc : Int
  /-- Return addresses, the newest first. -/
  stack : List Int
  delay : UInt8
  sound : UInt8

namespace Core

/-- The state in which a program starts. -/
def initial : Core := ⟨Vector.replicate 16 0, 0, programStart, [], 0, 0⟩

/-- The register that instructions use for carries and collisions. -/
def flagRegister : Fin 16 := 15

/-- The content of a register. -/
def reg (c : Core) (r : Fin 16) : UInt8 := c.v[r]

/-- The core with one register changed. -/
def setReg (c : Core) (r : Fin 16) (value : UInt8) : Core := { c with v := c.v.set r value }

/-- The core with the flag register telling whether something holds. -/
def setFlag (c : Core) (holds : Bool) : Core := c.setReg flagRegister (if holds then 1 else 0)

/-- The core with the program counter past the next instruction, or back before the last. -/
def advance (c : Core) (bytes : Int) : Core := { c with pc := wrap16 (c.pc + bytes) }

/-- The core that skips the next instruction if something holds. -/
def skipIf (c : Core) (holds : Bool) : Core := if holds then c.advance 2 else c

/-- The core with values in its first registers, from register 0 on. -/
def setRegs (c : Core) (values : List UInt8) : Core :=
  { c with v := Vector.ofFn fun r => values.getD r.val (c.reg r) }

/-- The values of the registers up to one. -/
def regsUpTo (c : Core) (r : Fin 16) : List UInt8 := c.v.toList.take (r.val + 1)

/-- A timer one tick later. -/
def countDown (timer : UInt8) : UInt8 := if timer = 0 then 0 else timer - 1

/-- The core with both timers one tick later. -/
def tick (c : Core) : Core :=
  { c with delay := countDown c.delay, sound := countDown c.sound }

/-! ### Reading a register after a change -/

theorem reg_setReg (c : Core) (r q : Fin 16) (value : UInt8) :
    (c.setReg r value).reg q = if r = q then value else c.reg q := by
  simp only [reg, setReg, Fin.getElem_fin, Vector.getElem_set, Fin.ext_iff]

theorem reg_setRegs (c : Core) (values : List UInt8) (q : Fin 16) :
    (c.setRegs values).reg q = values.getD q.val (c.reg q) := by
  simp [reg, setRegs]

end Core

/-- A processor with its devices. -/
structure Processor where
  core : Core
  memory : Memory
  screen : Screen
  keypad : Keypad
  table : DecodeTable
  /-- Whether jumps with an offset keep only the lowest eight bits of their target. -/
  truncateJump : Bool
  random : RandomSource
  /-- How many instructions were completed. -/
  completed : Nat
  /-- Whether a fault has stopped the processor. -/
  halted : Bool
  /-- Whether the screen was drawn on and not yet shown. -/
  redraw : Bool

namespace Processor

/-- How a processor is set up, apart from its program. -/
structure Setup where
  truncateJump : Bool := false
  random : RandomSource
  table : DecodeTable := DecodeTable.standard

/-- The processor with an image in memory, whatever its size. -/
def loaded (image : Array UInt8) (setup : Setup) : Processor where
  core := Core.initial
  memory := Memory.loaded image
  screen := Screen.standard
  keypad := Keypad.released
  table := setup.table
  truncateJump := setup.truncateJump
  random := setup.random
  completed := 0
  halted := false
  redraw := false

/-- The processor that is about to run a program image, if the image fits. -/
def start (image : Array UInt8) (setup : Setup) : Except BadImage Processor :=
  if FitsProgramSpace image then .ok (loaded image setup) else .error ⟨image.size⟩

/-! ### What the host can do -/

/-- The processor after a key went down or up. -/
def hold (p : Processor) (key : Fin 16) (down : Bool) : Processor :=
  { p with keypad := p.keypad.set key down }

/-- The processor after the key with a number went down or up. -/
def press (p : Processor) (index : Int) (down : Bool) : Except Keypad.NoSuchKey Processor :=
  match Keypad.key? index with
  | some key => .ok (p.hold key down)
  | none => .error ⟨index⟩

/-- The processor one timer tick later. -/
def tick (p : Processor) : Processor := { p with core := p.core.tick }

/-- The processor after the host has shown the screen. -/
def acknowledge (p : Processor) : Processor := { p with redraw := false }

/-- Whether the tone is due. -/
def sounding (p : Processor) : Bool := p.core.sound != 0

end Processor

end Chip8
