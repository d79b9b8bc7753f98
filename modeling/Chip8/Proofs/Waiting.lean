/-
Waiting for a key.

An instruction that waits for a key goes back to itself while no key is held, so a processor that
waits carries it out again at every step.  `Waits` says what all of this comes to: the steps are
counted, the timers run down by the ticks, and nothing else has happened that the host did not do
to the keypad and the mark on the screen.  It is proved for one request and then, by induction,
for as many as the host likes.

The first step that meets a held key takes the lowest one.  Which keys are held is a matter of
what the host said last about each of them (`Keypad.pressedAfter`).
-/
import Chip8.Proofs.Arithmetic
import Chip8.Proofs.Requests
import Chip8.Proofs.Timers

namespace Chip8

/-- Of the keys that are held there is a lowest one. -/
theorem Keypad.exists_lowest {k : Keypad} (h : ∃ key, k.holds key = true) :
    ∃ key, k.holds key = true ∧ ∀ other < key, k.holds other = false := by
  obtain ⟨key, hheld⟩ := h
  cases hfirst : k.first? with
  | none =>
      rw [first?_eq_none_iff.mp hfirst key] at hheld
      cases hheld
  | some lowest => exact ⟨lowest, first?_eq_some_iff.mp hfirst⟩

/-! ### What requests say about keys -/

/-- What a request says about a key: that it is held, that it is not, or nothing. -/
def Processor.Request.tells (key : Fin 16) : Processor.Request → Option Bool
  | .press index down => if index = key.val then some down else none
  | .step | .tick | .acknowledge => none

/-- Whether a key is held after some requests.  What was said last is so; at first no key is
held. -/
def Keypad.pressedAfter (requests : List Processor.Request) (key : Fin 16) : Bool :=
  (requests.filterMap (·.tells key)).getLast?.getD false

theorem Keypad.holds_press (k : Keypad) (index : Int) (down : Bool) (key : Fin 16) :
    (k.press index down).holds key = if index = key.val then down else k.holds key := by
  rw [press]
  cases h : key? index with
  | none =>
      rw [if_neg]
      · rfl
      · intro hindex
        rw [key?_eq_some_iff.mpr hindex] at h
        cases h
  | some other =>
      show (k.set other down).holds key = _
      rw [holds_set, key?_eq_some_iff.mp h]
      simp only [Int.natCast_inj, Fin.ext_iff]

namespace Processor

variable {p q r : Processor} {setup : Setup} {request : Request} {requests before : List Request}

theorem holds_serve (p : Processor) (request : Request) (key : Fin 16) :
    (p.serve request).keypad.holds key = (request.tells key).getD (p.keypad.holds key) := by
  cases request with
  | step => rw [serve_step, keypad_step, Request.tells, Option.getD_none]
  | tick | acknowledge => rfl
  | press index down =>
    rw [serve_press, Request.tells]
    show (p.keypad.press index down).holds key = _
    rw [Keypad.holds_press]
    split
    · rfl
    · rfl

/-- A keypad that is as the requests so far say is so after more of them. -/
theorem holds_serveEach (h : ∀ key, p.keypad.holds key = Keypad.pressedAfter before key)
    (key : Fin 16) :
    (p.serveEach requests).keypad.holds key = Keypad.pressedAfter (before ++ requests) key :=
  foldl_told serve (fun p => p.keypad.holds key) (·.tells key)
    (fun p request => holds_serve p request key) (h key) requests

/-! ### What waiting leaves -/

/-- Whether a request is a tick. -/
def Request.isTick : Request → Bool
  | .tick => true
  | .step | .press _ _ | .acknowledge => false

/-- What waiting for some steps and ticks leaves of a processor. -/
structure Waits (p : Processor) (steps ticks : Nat) (q : Processor) : Prop where
  timers : ∀ t : Timer, t.read q.core = t.read p.core - ticks
  /-- Nothing else changes, apart from the keypad and whether there is something to show. -/
  frame : q = { p with
    core := { p.core with delay := q.core.delay, sound := q.core.sound }
    keypad := q.keypad
    redraw := q.redraw
    completed := p.completed + steps }

theorem Waits.refl (p : Processor) : p.Waits 0 0 p := ⟨fun _ => rfl, rfl⟩

theorem Waits.trans {steps ticks steps' ticks' : Nat} (h : p.Waits steps ticks q)
    (h' : q.Waits steps' ticks' r) : p.Waits (steps + steps') (ticks + ticks') r where
  timers t := by
    rw [h'.timers, h.timers, Nat.sub_sub]
  frame := by
    rw [← Nat.add_assoc]
    refine h'.frame.trans ?_
    rw [h.frame]

/-- The instruction that waits is still the next one. -/
theorem Waits.opcode {steps ticks : Nat} (h : p.Waits steps ticks q) : q.opcode = p.opcode := by
  rw [h.frame]
  rfl

/-! ### Steps that wait -/

variable {i : Instruction}

/-- Whether an instruction that waits for a key is the next one of a running processor. -/
structure AtWait (p : Processor) (i : Instruction) : Prop where
  running : p.halted = false
  fetches : p.Fetches
  lookup : p.table.lookup p.opcode = some i
  routine : i.routine = .operation .waitKey

theorem AtWait.of_waits {steps ticks : Nat} (h : p.AtWait i) (hw : p.Waits steps ticks q) :
    q.AtWait i := by
  rw [hw.frame]
  exact ⟨h.running, h.fetches, h.lookup, h.routine⟩

/-- Without a key the instruction goes back to itself. -/
theorem AtWait.step_of_released (h : p.AtWait i) (hb : p.Bounded)
    (hkeys : ∀ key, p.keypad.holds key = false) :
    p.step = (.completed ⟨p.opcode, i⟩, { p with completed := p.completed + 1 }) := by
  have hfirst : p.keypad.first? = none := Keypad.first?_eq_none_iff.mpr hkeys
  have hback : p.passed.core.advance (-2) = p.core := by
    rw [Core.advance, ← Int.sub_eq_add_neg, hb.wrap16_passed_sub h.fetches]
    rfl
  refine step_of_steps h.running (.completed h.fetches h.lookup h.routine (q := p) ?_)
  show p.passed.awaitKey p.opcode.x = _
  rw [awaitKey, show p.passed.keypad = p.keypad from rfl, hfirst]
  dsimp only
  rw [hback]
  rfl

/-- With one it takes the lowest. -/
theorem AtWait.step_of_held (h : p.AtWait i) (hb : p.Bounded) {key : Fin 16}
    (hkey : p.keypad.holds key = true) (hlowest : ∀ other < key, p.keypad.holds other = false) :
    p.step = (.completed ⟨p.opcode, i⟩,
      p.behind (p.core.setReg p.opcode.x (UInt8.ofNat key.val)).v) := by
  have hfirst : p.keypad.first? = some key := Keypad.first?_eq_some_iff.mpr ⟨hkey, hlowest⟩
  refine hb.step_of_registers h.running h.fetches h.lookup h.routine ?_
  show p.passed.awaitKey p.opcode.x = _
  rw [awaitKey, show p.passed.keypad = p.keypad from rfl, hfirst]
  rfl

theorem AtWait.waits_serve (h : p.AtWait i) (hb : p.Bounded)
    (hkeys : ∀ q ∈ p.asked request, ∀ key, q.keypad.holds key = false) :
    p.Waits (p.asked request).length (if request.isTick then 1 else 0) (p.serve request) := by
  cases request with
  | step =>
    rw [serve_step, h.step_of_released hb (hkeys p (by simp [asked]))]
    exact ⟨fun _ => rfl, rfl⟩
  | tick => exact ⟨fun t => t.read_tick p.core, rfl⟩
  | press index down =>
    rw [serve_press]
    exact ⟨fun _ => rfl, rfl⟩
  | acknowledge => exact ⟨fun _ => rfl, rfl⟩

/-- **Waiting changes nothing but what the host does**, however long it takes. -/
theorem AtWait.waits_serveEach (h : p.AtWait i) (hb : p.Bounded)
    (hkeys : ∀ q ∈ p.stepped requests, ∀ key, q.keypad.holds key = false) :
    p.Waits (p.stepped requests).length (requests.countP (·.isTick)) (p.serveEach requests) ∧
      ∀ q ∈ p.stepped requests, q.step.1 = .completed ⟨p.opcode, i⟩ := by
  induction requests generalizing p with
  | nil => exact ⟨.refl p, by simp [stepped]⟩
  | cons request rest ih =>
      rw [stepped] at hkeys ⊢
      obtain ⟨hnow, hlater⟩ := List.forall_mem_append.mp hkeys
      have hfirst := h.waits_serve hb hnow
      obtain ⟨hrest, hsteps⟩ := ih (h.of_waits hfirst) (hb.serve request) hlater
      rw [hfirst.opcode] at hsteps
      constructor
      · rw [List.length_append, List.countP_cons, Nat.add_comm (rest.countP _), serveEach_cons]
        exact hfirst.trans hrest
      · refine List.forall_mem_append.mpr ⟨?_, hsteps⟩
        intro q hq
        cases request with
        | step =>
          obtain rfl := List.mem_singleton.mp hq
          rw [h.step_of_released hb (hnow q hq)]
        | tick | press | acknowledge => cases hq

/--
**Waiting for a key is a stutter.**  Let a processor that runs have come to an instruction that
waits for a key, by whatever requests.  As long as no key is held when it has to step, every step
is completed with that same instruction, and all that is left of the steps is their number.  The
first step that meets a held key stores the lowest one and goes on.  A key is held exactly if the
last request about it said so.

Under the standard table the instructions that wait are those of the opcodes `Fx0A`.
-/
theorem wait_stutters {image : Array UInt8} {first : Processor}
    (hstart : start image setup = .ok first) (hp : first.serveEach before = p)
    (hn : p.halted = false) (hnext : p.Next .waitKey) :
    (∃ i, ∀ requests q, p.serveEach requests = q →
      (∀ s ∈ p.stepped requests, ∀ key, s.keypad.holds key = false) →
      (∀ s ∈ p.stepped requests, s.step.1 = .completed ⟨p.opcode, i⟩) ∧
      p.Waits (p.stepped requests).length (requests.countP (·.isTick)) q ∧
      (∀ key, q.keypad.holds key = Keypad.pressedAfter (before ++ requests) key) ∧
      ((∃ key, q.keypad.holds key = true) →
        ∃ key, q.keypad.holds key = true ∧ (∀ other < key, q.keypad.holds other = false) ∧
          q.step = (.completed ⟨p.opcode, i⟩,
            q.behind (q.core.setReg p.opcode.x (UInt8.ofNat key.val)).v))) ∧
    (setup.table = .standard → ∀ q, Reachable setup q →
      (q.Next .waitKey ↔ q.Fetches ∧ q.opcode.primary = 0xF ∧ q.opcode.nn = 0x0A)) := by
  have hreach : Reachable setup p := hp ▸ (Reachable.start hstart).serveEach before
  obtain ⟨hf, i, hl, hr⟩ := hnext
  have hwait : p.AtWait i := ⟨hn, hf, hl, hr⟩
  have hkeypad : ∀ key, p.keypad.holds key = Keypad.pressedAfter before key := by
    obtain ⟨-, rfl⟩ := start_eq_ok_iff.mp hstart
    have hreleased : ∀ key, (loaded image setup).keypad.holds key = Keypad.pressedAfter [] key :=
      Keypad.holds_released
    intro key
    rw [← hp]
    exact holds_serveEach hreleased key
  refine ⟨⟨i, ?_⟩, fun ht q hq => hq.next_iff ht .waitKey⟩
  rintro requests q rfl hkeys
  obtain ⟨hwaits, hsteps⟩ := hwait.waits_serveEach hreach.bounded hkeys
  refine ⟨hsteps, hwaits, holds_serveEach hkeypad, ?_⟩
  intro hheld
  obtain ⟨key, hkey, hlowest⟩ := Keypad.exists_lowest hheld
  have hstep := (hwait.of_waits hwaits).step_of_held (hreach.serveEach requests).bounded hkey
    hlowest
  rw [hwaits.opcode] at hstep
  exact ⟨key, hkey, hlowest, hstep⟩

/-! ### A program that waits -/

/-- A program that waits for a key at once. -/
def waiting : Array UInt8 := #[0xF3, 0x0A]

theorem fits_waiting : FitsProgramSpace waiting := by decide

/-- It waits for one step, and of the two keys that go down then it takes the lower one. -/
theorem wait_stutters_waiting :
    ∃ q, (loaded waiting plainSetup).serveEach [.step, .press 9 true, .press 7 true] = q ∧
      q.core.pc = 0x200 ∧ q.completed = 1 ∧ q.step.2.core.pc = 0x202 ∧ q.step.2.core.reg 3 = 7 := by
  have hopcode : (loaded waiting plainSetup).opcode = 0xF30A :=
    opcode_of_image fits_waiting rfl (k := 0) rfl (by decide)
  have hnext : (loaded waiting plainSetup).Next .waitKey := (next_iff_at rfl _).mpr
    (at_of_image fits_waiting rfl (k := 0) rfl (by decide) rfl (by decide))
  have hstart : start waiting plainSetup = .ok (loaded waiting plainSetup) :=
    start_eq_ok_iff.mpr ⟨fits_waiting, rfl⟩
  obtain ⟨⟨i, hwait⟩, -⟩ := wait_stutters hstart (serveEach_nil _) rfl hnext
  have hstepped : ∀ p : Processor, p.stepped [.step, .press 9 true, .press 7 true] = [p] := by
    simp [stepped, asked]
  have hreleased : ∀ s ∈ (loaded waiting plainSetup).stepped
      [.step, .press 9 true, .press 7 true], ∀ key, s.keypad.holds key = false := by
    rw [hstepped]
    intro s hs
    rw [List.mem_singleton.mp hs]
    exact Keypad.holds_released
  obtain ⟨q, hq⟩ :
      ∃ q, (loaded waiting plainSetup).serveEach [.step, .press 9 true, .press 7 true] = q :=
    ⟨_, rfl⟩
  obtain ⟨-, hwaits, hkeys, hwakes⟩ := hwait _ q hq hreleased
  rw [hstepped] at hwaits
  obtain ⟨key, hkey, hlowest, hstep⟩ := hwakes ⟨7, by rw [hkeys]; decide⟩
  have hseven : key = 7 := by
    simp only [hkeys] at hkey hlowest
    clear hstep
    revert key
    decide
  have hpc : q.core.pc = 0x200 := by
    rw [hwaits.frame]
    rfl
  have hcompleted : q.completed = 1 := by
    rw [hwaits.frame]
    rfl
  rw [hopcode, hseven] at hstep
  refine ⟨q, hq, hpc, hcompleted, ?_, ?_⟩
  · rw [hstep]
    show q.core.pc + 2 = 0x202
    rw [hpc]
    rfl
  · rw [hstep]
    show (q.core.setReg _ _).reg 3 = 7
    rw [Core.reg_setReg, if_pos (by decide)]
    rfl

end Processor

end Chip8
