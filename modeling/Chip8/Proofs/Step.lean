/-
What a step can do.

A step of a running processor ends in one of five ways: the fetch fails, the table
knows no instruction, the instruction names no operation, the operation is cut short or
it is completed.  `Steps` has one constructor for each, and `step_iff` says that they
are all there is; whoever needs to know what a step leaves looks at these cases and
never at `step`.

An operation is cut short in few ways as well.  `CutShort` lists them together with
what they leave, and `perform_fault_iff` says that the list is complete.
-/
import Chip8.Processor.Step
import Chip8.Proofs.Decoding
import Chip8.Proofs.Memory
import Chip8.Proofs.Sprite

namespace Chip8.Processor

/-! ### The instruction at the program counter -/

/-- The opcode at the program counter. -/
def opcode (p : Processor) : Opcode := p.memory.word p.core.pc

/-- Whether the program counter points at two bytes of memory. -/
def Fetches (p : Processor) : Prop :=
  p.memory.Contains p.core.pc ∧ p.memory.Contains (p.core.pc + 1)

instance (p : Processor) : Decidable p.Fetches := inferInstanceAs (Decidable (_ ∧ _))

/-- Whether an operation is what the opcode at the program counter stands for. -/
def Next (p : Processor) (op : Operation) : Prop :=
  p.Fetches ∧ ∃ i, p.table.lookup p.opcode = some i ∧ i.routine = .operation op

/-- Whether an operation is what the console takes the opcode at the program counter for. -/
def At (p : Processor) (op : Operation) : Prop := p.Fetches ∧ p.opcode.Encodes op

instance (p : Processor) (op : Operation) : Decidable (p.At op) :=
  inferInstanceAs (Decidable (_ ∧ _))

theorem Next.eq {p : Processor} {op op' : Operation} (h : p.Next op) (h' : p.Next op') :
    op = op' := by
  obtain ⟨-, i, hi, hop⟩ := h
  obtain ⟨-, i', hi', hop'⟩ := h'
  rw [hi, Option.some.injEq] at hi'
  rw [hi', hop', Routine.operation.injEq] at hop
  exact hop.symm

theorem At.eq {p : Processor} {op op' : Operation} (h : p.At op) (h' : p.At op') : op = op' :=
  DecodeTable.encodes_unique h.2 h'.2

/-- Under the standard table the two agree. -/
theorem next_iff_at {p : Processor} (ht : p.table = .standard) (op : Operation) :
    p.Next op ↔ p.At op := by
  refine and_congr_right fun _ => ?_
  rw [ht]
  constructor
  · rintro ⟨i, hi, hop⟩
    obtain ⟨op', hop', he⟩ := DecodeTable.encodes_of_lookup hi
    rw [hop, Routine.operation.injEq] at hop'
    exact hop' ▸ he
  · exact DecodeTable.lookup_of_encodes

theorem readWord_of_fetches {p : Processor} (h : p.Fetches) :
    p.memory.readWord p.core.pc = .ok (p.memory.word p.core.pc) :=
  Memory.readWord_eq h.1 h.2

theorem fetches_of_readWord {p : Processor} {word : Nat}
    (h : p.memory.readWord p.core.pc = .ok word) : p.Fetches := by
  by_cases hc : p.memory.Contains p.core.pc
  · refine ⟨hc, ?_⟩
    by_cases hc' : p.memory.Contains (p.core.pc + 1)
    · exact hc'
    · rw [Memory.readWord, Memory.read_eq hc, Memory.read_of_not_contains hc'] at h
      cases h
  · rw [Memory.readWord, Memory.read_of_not_contains hc] at h
    cases h

/-! ### Operations that can be cut short -/

theorem storeAtIndex_eq (p : Processor) (values : List UInt8) :
    p.storeAtIndex values
      = ⟨{ p with memory := (p.memory.writeEach p.core.index values).1 },
          (p.memory.writeEach p.core.index values).2.map .access⟩ := by
  rw [storeAtIndex]
  rcases p.memory.writeEach p.core.index values with ⟨memory, _ | e⟩
  · rfl
  · rfl

theorem loadAtIndex_eq (p : Processor) (r : Fin 16) :
    p.loadAtIndex r
      = ⟨{ p with core := p.core.setRegs (p.memory.readEach p.core.index (r.val + 1)).1 },
          (p.memory.readEach p.core.index (r.val + 1)).2.map .access⟩ := by
  rw [loadAtIndex]
  rcases p.memory.readEach p.core.index (r.val + 1) with ⟨values, _ | e⟩
  · rfl
  · rfl

/-- The screen after the rows of a sprite that could be read are drawn, and the collision. -/
def drawn (p : Processor) (x y : UInt8) (height : Nat) : Screen × Bool :=
  p.screen.draw x.toNat y.toNat (p.memory.readEach p.core.index height).1

theorem drawSprite_of_ok {p : Processor} {x y : UInt8} {height : Nat}
    (h : (p.memory.readEach p.core.index height).2 = none) :
    p.drawSprite x y height
      = .done { p with
          screen := (p.drawn x y height).1
          core := p.core.setFlag (p.drawn x y height).2
          redraw := true } := by
  rw [drawSprite, drawn]
  rcases hr : p.memory.readEach p.core.index height with ⟨sprite, _ | e⟩
  · rfl
  · rw [hr] at h
    cases h

theorem drawSprite_of_error {p : Processor} {x y : UInt8} {height : Nat} {e : AccessError}
    (h : (p.memory.readEach p.core.index height).2 = some e) :
    p.drawSprite x y height = .cut { p with screen := (p.drawn x y height).1 } e := by
  rw [drawSprite, drawn]
  rcases hr : p.memory.readEach p.core.index height with ⟨sprite, _ | e'⟩
  · rw [hr] at h
    cases h
  · rw [hr] at h
    cases h
    rfl

theorem skipOnKey_of_lt {p : Processor} {key : UInt8} (held : Bool) (h : key.toNat < 16) :
    p.skipOnKey key held = .core p (p.core.skipIf (p.keypad.holds ⟨key.toNat, h⟩ == held)) :=
  dif_pos h

theorem skipOnKey_of_le {p : Processor} {key : UInt8} (held : Bool) (h : 16 ≤ key.toNat) :
    p.skipOnKey key held = ⟨p, some (.noSuchKey key)⟩ := dif_neg (Nat.not_lt.mpr h)

/-- The ways in which an operation is cut short: what it leaves and the fault. -/
inductive CutShort (p : Processor) (opcode : Opcode) : Operation → Processor → Fault → Prop
  | emptyStack (h : p.core.stack = []) :
      CutShort p opcode .returnFromCall p (.emptyStack (wrap16 (p.core.pc - 2)))
  | noSuchKey {op : Operation} (hop : op = .skipIfKey ∨ op = .skipUnlessKey)
      (h : 16 ≤ (p.core.reg opcode.x).toNat) :
      CutShort p opcode op p (.noSuchKey (p.core.reg opcode.x))
  | draw {e : AccessError} (h : (p.memory.readEach p.core.index opcode.n).2 = some e) :
      CutShort p opcode .draw
        { p with screen := (p.drawn (p.core.reg opcode.x) (p.core.reg opcode.y) opcode.n).1 }
        (.access e)
  | store {op : Operation} {values : List UInt8} {e : AccessError}
      (hop : op = .storeDigits ∧ values = decimalDigits (p.core.reg opcode.x)
        ∨ op = .storeRegisters ∧ values = p.core.regsUpTo opcode.x)
      (h : (p.memory.writeEach p.core.index values).2 = some e) :
      CutShort p opcode op
        { p with memory := (p.memory.writeEach p.core.index values).1 } (.access e)
  | loadRegisters {e : AccessError}
      (h : (p.memory.readEach p.core.index (opcode.x.val + 1)).2 = some e) :
      CutShort p opcode .loadRegisters
        { p with
          core := p.core.setRegs (p.memory.readEach p.core.index (opcode.x.val + 1)).1 }
        (.access e)

theorem cutShort_of_perform {p q : Processor} {op : Operation} {opcode : Opcode} {fault : Fault}
    (h : p.perform op opcode = ⟨q, some fault⟩) : CutShort p opcode op q fault := by
  cases op with
  | returnFromCall =>
    rw [perform, leave] at h
    cases hs : p.core.stack with
    | nil =>
        rw [hs] at h
        cases h
        exact .emptyStack hs
    | cons top rest =>
        rw [hs] at h
        cases h
  | skipIfKey | skipUnlessKey =>
    by_cases hk : 16 ≤ (p.core.reg opcode.x).toNat
    · rw [perform, skipOnKey_of_le _ hk] at h
      cases h
      exact .noSuchKey (by simp) hk
    · rw [perform, skipOnKey_of_lt _ (Nat.not_le.mp hk)] at h
      cases h
  | draw =>
    rw [perform] at h
    cases he : (p.memory.readEach p.core.index opcode.n).2 with
    | none =>
        rw [drawSprite_of_ok he] at h
        cases h
    | some e =>
        rw [drawSprite_of_error he] at h
        cases h
        exact .draw he
  | storeDigits | storeRegisters =>
    rw [perform, storeAtIndex_eq, Effect.mk.injEq, Option.map_eq_some_iff] at h
    obtain ⟨rfl, e, he, rfl⟩ := h
    exact .store (by simp) he
  | loadRegisters =>
    rw [perform, loadAtIndex_eq, Effect.mk.injEq, Option.map_eq_some_iff] at h
    obtain ⟨rfl, e, he, rfl⟩ := h
    exact .loadRegisters he
  | waitKey =>
    rw [perform, awaitKey] at h
    cases hk : p.keypad.first? with
    | none =>
        rw [hk] at h
        cases h
    | some key =>
        rw [hk] at h
        cases h
  | clearScreen | call | jump | skipIfEqualImmediate | skipUnlessEqualImmediate | skipIfEqual
  | skipUnlessEqual | loadImmediate | addImmediate | load | or | and | xor | add | subtract
  | subtractReverse | shiftRight | shiftLeft | loadIndex | jumpOffset | random | readDelay
  | setDelay | setSound | addIndex | loadGlyph =>
    cases h

theorem perform_of_cutShort {p q : Processor} {op : Operation} {opcode : Opcode} {fault : Fault}
    (h : CutShort p opcode op q fault) : p.perform op opcode = ⟨q, some fault⟩ := by
  cases h with
  | emptyStack h => rw [perform, leave, h]
  | noSuchKey hop h =>
      rcases hop with rfl | rfl
      · rw [perform, skipOnKey_of_le _ h]
      · rw [perform, skipOnKey_of_le _ h]
  | draw h =>
      rw [perform, drawSprite_of_error h]
      rfl
  | store hop h =>
      rcases hop with ⟨rfl, rfl⟩ | ⟨rfl, rfl⟩
      · rw [perform, storeAtIndex_eq, h]
        rfl
      · rw [perform, storeAtIndex_eq, h]
        rfl
  | loadRegisters h =>
      rw [perform, loadAtIndex_eq, h]
      rfl

/-- **An operation faults exactly in the ways listed**, and leaves what is listed there. -/
theorem perform_fault_iff {p q : Processor} {op : Operation} {opcode : Opcode} {fault : Fault} :
    p.perform op opcode = ⟨q, some fault⟩ ↔ CutShort p opcode op q fault :=
  ⟨cutShort_of_perform, perform_of_cutShort⟩

/-! ### What no operation changes -/

/-- Two processors alike in everything that operations leave alone. -/
structure Alike (p q : Processor) : Prop where
  keypad : q.keypad = p.keypad
  table : q.table = p.table
  truncateJump : q.truncateJump = p.truncateJump
  completed : q.completed = p.completed
  halted : q.halted = p.halted
  /-- Memory keeps its range. -/
  start : q.memory.start = p.memory.start
  size : q.memory.size = p.memory.size
  /-- The screen keeps its size. -/
  width : q.screen.width = p.screen.width
  height : q.screen.height = p.screen.height

theorem Alike.refl (p : Processor) : Alike p p := ⟨rfl, rfl, rfl, rfl, rfl, rfl, rfl, rfl, rfl⟩

theorem Alike.withCore (p : Processor) (c : Core) : Alike p { p with core := c } :=
  { Alike.refl p with }

theorem alike_storeAtIndex (p : Processor) (values : List UInt8) :
    Alike p (p.storeAtIndex values).processor := by
  rw [storeAtIndex_eq]
  exact { Alike.refl p with
    start := Memory.start_writeEach _ _ _
    size := Memory.size_writeEach _ _ _ }

theorem alike_drawSprite (p : Processor) (x y : UInt8) (height : Nat) :
    Alike p (p.drawSprite x y height).processor := by
  cases he : (p.memory.readEach p.core.index height).2 with
  | none =>
      rw [drawSprite_of_ok he]
      exact { Alike.refl p with
        width := Screen.width_draw _ _ _ _
        height := Screen.height_draw _ _ _ _ }
  | some e =>
      rw [drawSprite_of_error he]
      exact { Alike.refl p with
        width := Screen.width_draw _ _ _ _
        height := Screen.height_draw _ _ _ _ }

theorem alike_skipOnKey (p : Processor) (key : UInt8) (held : Bool) :
    Alike p (p.skipOnKey key held).processor := by
  by_cases hk : 16 ≤ key.toNat
  · rw [skipOnKey_of_le _ hk]
    exact Alike.refl p
  · rw [skipOnKey_of_lt _ (Nat.not_le.mp hk)]
    exact Alike.withCore p _

theorem alike_perform (p : Processor) (op : Operation) (opcode : Opcode) :
    Alike p (p.perform op opcode).processor := by
  cases op with
  | clearScreen | random => exact { Alike.refl p with }
  | returnFromCall =>
    rw [perform, leave]
    cases p.core.stack with
    | nil => exact Alike.refl p
    | cons top rest => exact Alike.withCore p _
  | draw => exact alike_drawSprite p _ _ _
  | skipIfKey | skipUnlessKey => exact alike_skipOnKey p _ _
  | waitKey =>
    rw [perform, awaitKey]
    cases p.keypad.first? with
    | none => exact Alike.withCore p _
    | some key => exact Alike.withCore p _
  | storeDigits | storeRegisters => exact alike_storeAtIndex p _
  | loadRegisters =>
    rw [perform, loadAtIndex_eq]
    exact Alike.withCore p _
  | call | jump | skipIfEqualImmediate | skipUnlessEqualImmediate | skipIfEqual
  | skipUnlessEqual | loadImmediate | addImmediate | load | or | and | xor | add | subtract
  | subtractReverse | shiftRight | shiftLeft | loadIndex | jumpOffset | readDelay | setDelay
  | setSound | addIndex | loadGlyph =>
    exact Alike.withCore p _

theorem alike_of_perform {p q : Processor} {op : Operation} {opcode : Opcode}
    {fault : Option Fault} (h : p.perform op opcode = ⟨q, fault⟩) : Alike p q := by
  have ha := alike_perform p op opcode
  rw [h] at ha
  exact ha

/-! ### The ways a step ends -/

/-- How a step of a running processor ends, and what it leaves. -/
inductive Steps (p : Processor) : StepOutcome → Processor → Prop
  | unfetched {e : AccessError} (h : p.memory.readWord p.core.pc = .error e) :
      Steps p (.failed (.access e) none) p.halt
  | illegal (hf : p.Fetches) (hl : p.table.lookup p.opcode = none) :
      Steps p (.failed (.illegal p.opcode p.core.pc) none) p.passed.halt
  | unknown (hf : p.Fetches) {i : Instruction} {word : String}
      (hl : p.table.lookup p.opcode = some i) (hr : i.routine = .unknown word) :
      Steps p (.failed (.noSuchOperation word) (some ⟨p.opcode, i⟩)) p.passed.halt
  | cut (hf : p.Fetches) {i : Instruction} {op : Operation} {q : Processor} {fault : Fault}
      (hl : p.table.lookup p.opcode = some i) (hr : i.routine = .operation op)
      (hc : CutShort p.passed p.opcode op q fault) :
      Steps p (.failed fault (some ⟨p.opcode, i⟩)) q.halt
  | completed (hf : p.Fetches) {i : Instruction} {op : Operation} {q : Processor}
      (hl : p.table.lookup p.opcode = some i) (hr : i.routine = .operation op)
      (hp : p.passed.perform op p.opcode = ⟨q, none⟩) :
      Steps p (.completed ⟨p.opcode, i⟩) { q with completed := p.completed + 1 }

variable {p q : Processor} {outcome : StepOutcome}

theorem step_of_lookup_none (hn : p.halted = false) (hf : p.Fetches)
    (hl : p.table.lookup p.opcode = none) :
    p.step = (.failed (.illegal p.opcode p.core.pc) none, p.passed.halt) := by
  unfold opcode at hl
  rw [step, hn, if_neg (by simp), readWord_of_fetches hf]
  dsimp only
  rw [hl]
  rfl

theorem step_of_lookup_some (hn : p.halted = false) (hf : p.Fetches) {i : Instruction}
    (hl : p.table.lookup p.opcode = some i) :
    p.step = match p.passed.execute ⟨p.opcode, i⟩ with
      | ⟨q, none⟩ => (.completed ⟨p.opcode, i⟩, { q with completed := q.completed + 1 })
      | ⟨q, some fault⟩ => (.failed fault (some ⟨p.opcode, i⟩), q.halt) := by
  unfold opcode at hl
  rw [step, hn, if_neg (by simp), readWord_of_fetches hf]
  dsimp only
  rw [hl]
  rfl

theorem execute_of_operation {i : Instruction} {op : Operation} (hr : i.routine = .operation op)
    (word : Opcode) : p.execute ⟨word, i⟩ = p.perform op word := by
  rw [execute, hr]

theorem execute_of_unknown {i : Instruction} {word : String} (hr : i.routine = .unknown word)
    (opcode : Opcode) : p.execute ⟨opcode, i⟩ = ⟨p, some (.noSuchOperation word)⟩ := by
  rw [execute, hr]

theorem step_of_steps (hn : p.halted = false) (h : Steps p outcome q) :
    p.step = (outcome, q) := by
  cases h with
  | unfetched h => rw [step, hn, if_neg (by simp), h]
  | illegal hf hl => exact step_of_lookup_none hn hf hl
  | unknown hf hl hr => rw [step_of_lookup_some hn hf hl, execute_of_unknown hr]
  | cut hf hl hr hc =>
      rw [step_of_lookup_some hn hf hl, execute_of_operation hr, perform_of_cutShort hc]
  | @completed hf i op q hl hr hp =>
      have hcompleted : q.completed = p.completed := (alike_of_perform hp).completed
      rw [step_of_lookup_some hn hf hl, execute_of_operation hr, hp, ← hcompleted]

theorem steps_of_running (hn : p.halted = false) : Steps p p.step.1 p.step.2 := by
  cases hw : p.memory.readWord p.core.pc with
  | error e =>
      rw [step_of_steps hn (.unfetched hw)]
      exact .unfetched hw
  | ok word =>
      have hf := fetches_of_readWord hw
      cases hl : p.table.lookup p.opcode with
      | none =>
          rw [step_of_steps hn (.illegal hf hl)]
          exact .illegal hf hl
      | some i =>
          cases hr : i.routine with
          | unknown word =>
              rw [step_of_steps hn (.unknown hf hl hr)]
              exact .unknown hf hl hr
          | operation op =>
              rcases hp : p.passed.perform op p.opcode with ⟨q, _ | fault⟩
              · rw [step_of_steps hn (.completed hf hl hr hp)]
                exact .completed hf hl hr hp
              · have hc := cutShort_of_perform hp
                rw [step_of_steps hn (.cut hf hl hr hc)]
                exact .cut hf hl hr hc

/-- **A step of a running processor ends in one of these ways**, and each of them is a step. -/
theorem step_iff (hn : p.halted = false) : p.step = (outcome, q) ↔ Steps p outcome q := by
  constructor
  · intro h
    have hs := steps_of_running hn
    rw [h] at hs
    exact hs
  · exact step_of_steps hn

theorem steps_of_completed {decoded : Decoded} (h : p.step = (.completed decoded, q)) :
    p.halted = false ∧ Steps p (.completed decoded) q := by
  cases hn : p.halted with
  | true =>
      rw [step_of_halted hn] at h
      cases h
  | false => exact ⟨rfl, (step_iff hn).mp h⟩

/-- No step touches the table, whichever way it ends. -/
theorem table_of_steps (h : Steps p outcome q) : q.table = p.table := by
  cases h with
  | unfetched | illegal | unknown => rfl
  | cut hf hl hr hc => exact (alike_of_perform (perform_of_cutShort hc)).table
  | completed hf hl hr hp => exact (alike_of_perform hp).table

/-- Nor does one touch the keys. -/
theorem keypad_of_steps (h : Steps p outcome q) : q.keypad = p.keypad := by
  cases h with
  | unfetched | illegal | unknown => rfl
  | cut hf hl hr hc => exact (alike_of_perform (perform_of_cutShort hc)).keypad
  | completed hf hl hr hp => exact (alike_of_perform hp).keypad

theorem keypad_step (p : Processor) : p.step.2.keypad = p.keypad := by
  cases hn : p.halted with
  | true => rw [step_of_halted hn]
  | false => exact keypad_of_steps (steps_of_running hn)

end Chip8.Processor
