/-
What each operation does.

An operation meets the processor when the program counter has already moved past the
instruction.  It always leaves a processor behind.  If it cannot be completed it also
names the fault, and the processor it leaves shows the part that was done: registers
or bytes transferred before the failing address, or the sprite rows that could be
read.
-/
import Chip8.Processor
import Chip8.Fault

namespace Chip8

/-- An opcode with the instruction it was found to be. -/
structure Decoded where
  opcode : Opcode
  instruction : Instruction

/-- The processor an operation leaves, and the fault that cut it short. -/
structure Effect where
  processor : Processor
  fault : Option Fault

namespace Effect

/-- An operation that was completed. -/
def done (p : Processor) : Effect := ⟨p, none⟩

/-- An operation that was completed and changed the core only. -/
def core (p : Processor) (c : Core) : Effect := done { p with core := c }

/-- An operation that was cut short by an access. -/
def cut (p : Processor) (error : AccessError) : Effect := ⟨p, some (.access error)⟩

end Effect

namespace Processor

/-- The sum and whether it left eight bits. -/
def addCarry (a b : UInt8) : UInt8 × Bool := (a + b, a.toNat + b.toNat > 255)

/-- The difference and whether it needed no borrow. -/
def subBorrow (a b : UInt8) : UInt8 × Bool := (a - b, b ≤ a)

/-- The decimal digits of a byte, hundreds first. -/
def decimalDigits (value : UInt8) : List UInt8 := [value / 100, value / 10 % 10, value % 10]

/-- Stores a result, and after it the flag. -/
def resultThenFlag (c : Core) (r : Fin 16) (result : UInt8 × Bool) : Core :=
  (c.setReg r result.1).setFlag result.2

/--
Stores the bit that a shift pushes out in the flag register, and after that shifts a
register.  If that register is the flag register itself, the bit is what is shifted.
-/
def flagThenShift (c : Core) (r : Fin 16) (bit : Bool) (shift : UInt8 → UInt8) : Core :=
  let c := c.setFlag bit
  c.setReg r (shift (c.reg r))

/-- Goes to a subroutine. -/
def enter (p : Processor) (target : Int) : Effect :=
  Effect.core p { p.core with stack := p.core.pc :: p.core.stack, pc := target }

/-- Comes back from a subroutine. -/
def leave (p : Processor) : Effect :=
  match p.core.stack with
  | [] => ⟨p, some (.emptyStack (wrap16 (p.core.pc - 2)))⟩
  | top :: rest => Effect.core p { p.core with stack := rest, pc := top }

/-- Jumps to an address, cut to eight bits on consoles that do so. -/
def jumpTo (p : Processor) (target : Int) : Effect :=
  Effect.core p { p.core with pc := if p.truncateJump then target % 0x100 else wrap16 target }

/-- Puts a random number under a mask into a register. -/
def drawRandom (p : Processor) (r : Fin 16) (mask : UInt8) : Effect :=
  let (number, random) := p.random.draw
  Effect.done { p with core := p.core.setReg r (UInt8.ofInt number &&& mask), random }

/--
Draws a sprite of so many rows.  If a row lies outside memory, the rows before it are
on the screen but neither the flag nor the redraw note is set.
-/
def drawSprite (p : Processor) (x y : UInt8) (height : Nat) : Effect :=
  let (sprite, error) := p.memory.readEach p.core.index height
  let (screen, collision) := p.screen.draw x.toNat y.toNat sprite
  match error with
  | some e => Effect.cut { p with screen } e
  | none => Effect.done { p with screen, core := p.core.setFlag collision, redraw := true }

/-- Skips the next instruction if the key named by a register is held, or if it is not. -/
def skipOnKey (p : Processor) (key : UInt8) (held : Bool) : Effect :=
  if h : key.toNat < 16 then
    Effect.core p (p.core.skipIf (p.keypad.holds ⟨key.toNat, h⟩ == held))
  else
    ⟨p, some (.noSuchKey key)⟩

/-- Takes the lowest key that is held, or goes back to the instruction to ask again. -/
def awaitKey (p : Processor) (r : Fin 16) : Effect :=
  match p.keypad.first? with
  | none => Effect.core p (p.core.advance (-2))
  | some key => Effect.core p (p.core.setReg r (UInt8.ofNat key.val))

/-- Stores bytes from the index on. -/
def storeAtIndex (p : Processor) (values : List UInt8) : Effect :=
  match p.memory.writeEach p.core.index values with
  | (memory, none) => Effect.done { p with memory }
  | (memory, some e) => Effect.cut { p with memory } e

/-- Fills registers, from register 0 up to one, with the bytes from the index on. -/
def loadAtIndex (p : Processor) (r : Fin 16) : Effect :=
  let (values, error) := p.memory.readEach p.core.index (r.val + 1)
  let p := { p with core := p.core.setRegs values }
  match error with
  | none => Effect.done p
  | some e => Effect.cut p e

/-- Carries out an operation with the operands of an opcode. -/
def perform (p : Processor) (op : Operation) (opcode : Opcode) : Effect :=
  let c := p.core
  let vx := c.reg opcode.x
  let vy := c.reg opcode.y
  match op with
  | .clearScreen => Effect.done { p with screen := p.screen.clear, redraw := true }
  | .returnFromCall => p.leave
  | .call => p.enter opcode.nnn
  | .jump => Effect.core p { c with pc := opcode.nnn }
  | .skipIfEqualImmediate => Effect.core p (c.skipIf (vx == opcode.nn))
  | .skipUnlessEqualImmediate => Effect.core p (c.skipIf (vx != opcode.nn))
  | .skipIfEqual => Effect.core p (c.skipIf (vx == vy))
  | .skipUnlessEqual => Effect.core p (c.skipIf (vx != vy))
  | .loadImmediate => Effect.core p (c.setReg opcode.x opcode.nn)
  | .addImmediate => Effect.core p (c.setReg opcode.x (vx + opcode.nn))
  | .load => Effect.core p (c.setReg opcode.x vy)
  | .or => Effect.core p (c.setReg opcode.x (vx ||| vy))
  | .and => Effect.core p (c.setReg opcode.x (vx &&& vy))
  | .xor => Effect.core p (c.setReg opcode.x (vx ^^^ vy))
  | .add => Effect.core p (resultThenFlag c opcode.x (addCarry vx vy))
  | .subtract => Effect.core p (resultThenFlag c opcode.x (subBorrow vx vy))
  | .subtractReverse => Effect.core p (resultThenFlag c opcode.x (subBorrow vy vx))
  | .shiftRight => Effect.core p (flagThenShift c opcode.x (vx.toNat.testBit 0) (· >>> 1))
  | .shiftLeft => Effect.core p (flagThenShift c opcode.x (vx.toNat.testBit 7) (· <<< 1))
  | .loadIndex => Effect.core p { c with index := opcode.nnn }
  | .jumpOffset => p.jumpTo (opcode.nnn + (c.reg 0).toNat)
  | .random => p.drawRandom opcode.x opcode.nn
  | .draw => p.drawSprite vx vy opcode.n
  | .skipIfKey => p.skipOnKey vx true
  | .skipUnlessKey => p.skipOnKey vx false
  | .readDelay => Effect.core p (c.setReg opcode.x c.delay)
  | .waitKey => p.awaitKey opcode.x
  | .setDelay => Effect.core p { c with delay := vx }
  | .setSound => Effect.core p { c with sound := vx }
  | .addIndex => Effect.core p { c with index := wrap16 (c.index + vx.toNat) }
  | .loadGlyph => Effect.core p { c with index := Font.glyphAddress vx.toNat }
  | .storeDigits => p.storeAtIndex (decimalDigits vx)
  | .storeRegisters => p.storeAtIndex (c.regsUpTo opcode.x)
  | .loadRegisters => p.loadAtIndex opcode.x

/-- Carries out a decoded instruction. -/
def execute (p : Processor) (d : Decoded) : Effect :=
  match d.instruction.routine with
  | .operation op => p.perform op d.opcode
  | .unknown word => ⟨p, some (.noSuchOperation word)⟩

end Processor

end Chip8
