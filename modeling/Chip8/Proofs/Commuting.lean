/-
Requests that can trade places.

A tick, a key and an acknowledgement each change one small part of a processor: the
timers, the keypad or the redraw note.  Most operations have nothing to do with that
part.  A `Touch` is any change of these three parts, and it spares an operation that
neither reads nor writes what it changes; such an operation does the same on either side
of the touch (`perform_touch`), and so does the step that carries it out.  Whether the
step is completed, fails to fetch or is cut short midway makes no difference, because the
ways a step ends look at none of the three parts either.

The three requests of the host touch different parts, so they trade places among
themselves as well.
-/
import Chip8.Proofs.Faults
import Chip8.Proofs.Requests

namespace Chip8

/-- A change of what few operations look at. -/
structure Touch where
  delay : UInt8 → UInt8 := id
  sound : UInt8 → UInt8 := id
  keypad : Keypad → Keypad := id
  redraw : Bool → Bool := id

/-- Whether an operation neither reads nor writes what is changed. -/
structure Touch.Spares (t : Touch) (op : Operation) : Prop where
  delay : op ∈ [.readDelay, .setDelay] → t.delay = id
  sound : op = .setSound → t.sound = id
  keypad : op ∈ [.skipIfKey, .skipUnlessKey, .waitKey] → t.keypad = id
  redraw : op ∈ [.clearScreen, .draw] → t.redraw = id

/-- The core with its timers changed. -/
def Core.touch (c : Core) (t : Touch) : Core :=
  { c with delay := t.delay c.delay, sound := t.sound c.sound }

theorem Core.skipIf_touch (c : Core) (t : Touch) (holds : Bool) :
    (c.touch t).skipIf holds = (c.skipIf holds).touch t := by
  cases holds with
  | false => rfl
  | true => rfl

namespace Processor

/-- The processor with timers, keypad and redraw note changed. -/
def touch (p : Processor) (t : Touch) : Processor :=
  { p with core := p.core.touch t, keypad := t.keypad p.keypad, redraw := t.redraw p.redraw }

end Processor

/-- What an operation leaves, changed afterwards. -/
def Effect.touch (e : Effect) (t : Touch) : Effect := ⟨e.processor.touch t, e.fault⟩

namespace Processor

variable {p q : Processor} {t : Touch} {op : Operation} {outcome : StepOutcome}

/-! ### Operations that are spared -/

theorem drawSprite_touch (hs : t.redraw = id) (x y : UInt8) (height : Nat) :
    (p.touch t).drawSprite x y height = (p.drawSprite x y height).touch t := by
  cases he : (p.memory.readEach p.core.index height).2 with
  | none =>
      obtain ⟨delay, sound, keypad, redraw⟩ := t
      obtain rfl : redraw = id := hs
      rw [drawSprite_of_ok he, drawSprite_of_ok (p := p.touch _) he]
      rfl
  | some e =>
      rw [drawSprite_of_error he, drawSprite_of_error (p := p.touch t) he]
      rfl

theorem skipOnKey_touch (hs : t.keypad = id) (key : UInt8) (held : Bool) :
    (p.touch t).skipOnKey key held = (p.skipOnKey key held).touch t := by
  obtain ⟨delay, sound, keypad, redraw⟩ := t
  obtain rfl : keypad = id := hs
  by_cases hk : 16 ≤ key.toNat
  · rw [skipOnKey_of_le _ hk, skipOnKey_of_le _ hk]
    rfl
  · rw [skipOnKey_of_lt _ (Nat.not_le.mp hk), skipOnKey_of_lt _ (Nat.not_le.mp hk)]
    exact congrArg (Effect.core _) (Core.skipIf_touch p.core _ _)

theorem awaitKey_touch (hs : t.keypad = id) (r : Fin 16) :
    (p.touch t).awaitKey r = (p.awaitKey r).touch t := by
  obtain ⟨delay, sound, keypad, redraw⟩ := t
  obtain rfl : keypad = id := hs
  have hfirst : (p.touch ⟨delay, sound, id, redraw⟩).keypad.first? = p.keypad.first? := rfl
  rw [awaitKey, awaitKey, hfirst]
  cases p.keypad.first? with
  | none => rfl
  | some key => rfl

/-- **An operation that is spared does the same on either side of a touch.** -/
theorem perform_touch (p : Processor) (opcode : Opcode) (hs : t.Spares op) :
    (p.touch t).perform op opcode = (p.perform op opcode).touch t := by
  cases op with
  | clearScreen =>
    obtain ⟨delay, sound, keypad, redraw⟩ := t
    obtain rfl : redraw = id := hs.redraw (by decide)
    rfl
  | draw => exact drawSprite_touch (hs.redraw (by decide)) _ _ _
  | skipIfKey | skipUnlessKey => exact skipOnKey_touch (hs.keypad (by decide)) _ _
  | waitKey => exact awaitKey_touch (hs.keypad (by decide)) _
  | readDelay | setDelay =>
    obtain ⟨delay, sound, keypad, redraw⟩ := t
    obtain rfl : delay = id := hs.delay (by decide)
    rfl
  | setSound =>
    obtain ⟨delay, sound, keypad, redraw⟩ := t
    obtain rfl : sound = id := hs.sound rfl
    rfl
  | returnFromCall =>
    have hstack : (p.touch t).core.stack = p.core.stack := rfl
    rw [perform, perform, leave, leave, hstack]
    cases p.core.stack with
    | nil => rfl
    | cons top rest => rfl
  | skipIfEqualImmediate | skipUnlessEqualImmediate | skipIfEqual | skipUnlessEqual =>
    exact congrArg (Effect.core (p.touch t)) (Core.skipIf_touch p.core t _)
  | storeDigits | storeRegisters =>
    rw [perform, perform, storeAtIndex_eq, storeAtIndex_eq]
    rfl
  | loadRegisters =>
    rw [perform, perform, loadAtIndex_eq, loadAtIndex_eq]
    rfl
  | call | jump | loadImmediate | addImmediate | load | or | and | xor | add | subtract
  | subtractReverse | shiftRight | shiftLeft | loadIndex | jumpOffset | random | addIndex
  | loadGlyph => rfl

/-! ### Steps that are spared -/

theorem Steps.touch (h : Steps p outcome q) (hs : ∀ op, p.Next op → t.Spares op) :
    Steps (p.touch t) outcome (q.touch t) := by
  cases h with
  | unfetched h => exact .unfetched (p := p.touch t) h
  | illegal hf hl => exact .illegal (p := p.touch t) hf hl
  | unknown hf hl hr => exact .unknown (p := p.touch t) hf hl hr
  | @cut hf i op q fault hl hr hc =>
      have hp : (p.passed.touch t).perform op p.opcode = ⟨q.touch t, some fault⟩ := by
        rw [perform_touch _ _ (hs op ⟨hf, i, hl, hr⟩), perform_of_cutShort hc, Effect.touch]
      exact .cut (p := p.touch t) hf hl hr (cutShort_of_perform hp)
  | @completed hf i op q hl hr hp =>
      have hp' : (p.passed.touch t).perform op p.opcode = ⟨q.touch t, none⟩ := by
        rw [perform_touch _ _ (hs op ⟨hf, i, hl, hr⟩), hp, Effect.touch]
      exact .completed (p := p.touch t) hf hl hr hp'

/-- **A step whose operation is spared does the same on either side of a touch**, completed
or not. -/
theorem step_touch (hs : ∀ op, p.Next op → t.Spares op) :
    (p.touch t).step = (p.step.1, p.step.2.touch t) := by
  cases hn : p.halted with
  | true => rw [step_of_halted hn, step_of_halted (p := p.touch t) hn]
  | false => exact step_of_steps (p := p.touch t) hn ((steps_of_running hn).touch hs)

/-! ### What the host is told -/

/-- The answer to a request. -/
def answer (p : Processor) : Request → Console.Answer
  | .step => .step p.step.1.toExcept
  | .press index down =>
    match p.press index down with
    | .ok _ => .done
    | .error e => .noSuchKey e
  | .tick | .acknowledge => .done

/-- A console answers requests to its processor as the processor does. -/
theorem answer_ask (c : Console) (request : Request) :
    c.answer (.ask request) = c.processor.answer request := by
  cases request <;> rfl

/-- The answer to each request and the processor after it. -/
def trajectory (p : Processor) : List Request → List (Console.Answer × Processor)
  | [] => []
  | request :: rest => (p.answer request, p.serve request) :: (p.serve request).trajectory rest

/-- Whether two requests can trade places: they leave the same processor in either order, and
each is answered the same before and after the other. -/
structure Commute (p : Processor) (r r' : Request) : Prop where
  state : (p.serve r).serve r' = (p.serve r').serve r
  first : (p.serve r').answer r = p.answer r
  second : (p.serve r).answer r' = p.answer r'

/-- Whether a request makes one change of timers, keypad and redraw note, whatever it meets. -/
structure Touches (r : Request) (t : Touch) : Prop where
  serve : ∀ p : Processor, p.serve r = p.touch t
  answer : ∀ p q : Processor, p.answer r = q.answer r

theorem touches_tick :
    Touches .tick { delay := Core.countDown, sound := Core.countDown } where
  serve _ := rfl
  answer _ _ := rfl

/-- A key that does not exist changes nothing and is refused by every processor alike. -/
theorem touches_press (index : Int) (down : Bool) :
    Touches (.press index down) { keypad := fun k => k.press index down } where
  serve p := serve_press p index down
  answer p q := by
    rw [Processor.answer, Processor.answer, press, press]
    cases Keypad.key? index with
    | some key => rfl
    | none => rfl

theorem touches_acknowledge : Touches .acknowledge { redraw := fun _ => false } where
  serve _ := rfl
  answer _ _ := rfl

variable {r r' : Request} {t' : Touch}

theorem Touches.commute_step (h : Touches r t) (hs : ∀ op, p.Next op → t.Spares op) :
    p.Commute r .step := by
  have hstep := step_touch hs
  constructor
  · rw [h.serve, serve_step, serve_step, h.serve, hstep]
  · exact h.answer _ _
  · rw [h.serve, Processor.answer, Processor.answer, hstep]

theorem Touches.commute (h : Touches r t) (h' : Touches r' t')
    (htt : (p.touch t).touch t' = (p.touch t').touch t) : p.Commute r r' := by
  constructor
  · rw [h.serve, h'.serve, h'.serve, h.serve, htt]
  · exact h.answer _ _
  · exact h'.answer _ _

/-! ### The requests of the host -/

/--
**What the host asks for can trade places with a step** unless the instruction at the
program counter looks at the same part of the processor, and the requests of the host can
trade places with each other.  A step that fails is no exception: it fails with the same
fault and leaves the same residue on either side.
-/
theorem requests_commute (p : Processor) (ht : p.table = .standard) (index : Int) (down : Bool) :
    ((∀ op ∈ [.readDelay, .setDelay, .setSound], ¬ p.At op) → p.Commute .tick .step) ∧
    ((∀ op ∈ [.skipIfKey, .skipUnlessKey, .waitKey], ¬ p.At op) →
      p.Commute (.press index down) .step) ∧
    ((∀ op ∈ [.clearScreen, .draw], ¬ p.At op) → p.Commute .acknowledge .step) ∧
    p.Commute .tick (.press index down) ∧
    p.Commute .tick .acknowledge ∧
    p.Commute (.press index down) .acknowledge := by
  have hat : ∀ op, p.Next op → p.At op := fun op => (next_iff_at ht op).mp
  refine ⟨?_, ?_, ?_, ?_, ?_, ?_⟩
  · intro hnot
    refine touches_tick.commute_step fun op hop => ⟨?_, ?_, fun _ => rfl, fun _ => rfl⟩
    · intro hmem
      have hall := List.mem_append_left [Operation.setSound] hmem
      exact absurd (hat op hop) (hnot op hall)
    · rintro rfl
      exact absurd (hat _ hop) (hnot _ (by decide))
  · intro hnot
    refine (touches_press index down).commute_step fun op hop =>
      ⟨fun _ => rfl, fun _ => rfl, ?_, fun _ => rfl⟩
    intro hmem
    exact absurd (hat op hop) (hnot op hmem)
  · intro hnot
    refine touches_acknowledge.commute_step fun op hop =>
      ⟨fun _ => rfl, fun _ => rfl, fun _ => rfl, ?_⟩
    intro hmem
    exact absurd (hat op hop) (hnot op hmem)
  · exact touches_tick.commute (touches_press index down) rfl
  · exact touches_tick.commute touches_acknowledge rfl
  · exact (touches_press index down).commute touches_acknowledge rfl

/--
A transfer that is cut short is cut short alike around a tick, a key that exists, one that
does not and an acknowledgement.
-/
theorem requests_commute_overrunner :
    overrunner.step.1.toExcept = .error (.access ⟨0x1000, 0, 0xFFF⟩) ∧
      overrunner.Commute .tick .step ∧ overrunner.Commute (.press 3 true) .step ∧
      overrunner.Commute (.press 16 true) .step ∧ overrunner.Commute .acknowledge .step := by
  have hat : overrunner.At .storeRegisters :=
    at_of_image fits_overrunImage rfl (k := 4) rfl (by decide) rfl (by decide)
  have hnot : ∀ ops : List Operation, .storeRegisters ∉ ops → ∀ op ∈ ops, ¬ overrunner.At op := by
    intro ops hmem op hop hop'
    exact hmem (hop'.eq hat ▸ hop)
  have hcommute := requests_commute overrunner rfl
  refine ⟨?_, ?_, ?_, ?_, ?_⟩
  · exact (error_iff_fails reachable_overrunner.bounded rfl rfl).mpr
      (fails_of_faulty reachable_overrunner.bounded faulty_overrunner)
  · exact (hcommute 0 true).1 (hnot _ (by decide))
  · exact (hcommute 3 true).2.1 (hnot _ (by decide))
  · exact (hcommute 16 true).2.1 (hnot _ (by decide))
  · exact (hcommute 0 true).2.2.1 (hnot _ (by decide))

end Processor

end Chip8
