/-
What the jump option decides.

Some consoles cut the target of a jump with an offset to eight bits.  Whether a processor does so
is asked by that one operation alone, so two processors that differ in the option do the same as
long as no such jump goes beyond eight bits: below that the two ways of cutting a target agree
(`jumpTo_near`).  `truncating` sets the option, and all else that happens to a processor can
trade places with it until a step `JumpsFar`.

The first far jump is completed on both, and it leaves them apart in their program counters and
in nothing else.
-/
import Chip8.Proofs.Commuting
import Chip8.Proofs.Footprint

namespace Chip8.Processor

/-- The processor with the jump option set one way or the other. -/
def truncating (p : Processor) (truncateJump : Bool) : Processor := { p with truncateJump }

/-- Where a jump with an offset goes that is not cut. -/
def offsetTarget (p : Processor) : Nat := p.opcode.nnn + (p.core.reg 0).toNat

/-- Whether the next step carries out a jump with an offset to beyond eight bits. -/
structure JumpsFar (p : Processor) : Prop where
  running : p.halted = false
  /-- Under the standard table these are the opcodes that begin with `B`. -/
  next : p.Next .jumpOffset
  far : 0xFF < p.offsetTarget

/-- Whether none of the steps among some requests carries out a far jump. -/
def StaysNear (p : Processor) : List Request → Prop
  | [] => True
  | request :: rest => (request = .step → ¬ p.JumpsFar) ∧ (p.serve request).StaysNear rest

end Processor

/-- What an operation leaves, with the jump option set. -/
def Effect.truncating (e : Effect) (truncateJump : Bool) : Effect :=
  ⟨e.processor.truncating truncateJump, e.fault⟩

namespace Processor

variable {p q : Processor} {op : Operation} {outcome : StepOutcome} {b : Bool}

/-! ### Operations -/

/-- Up to eight bits a target is cut to itself, whatever the option says. -/
theorem jumpTo_near {target : Int} (h0 : 0 ≤ target) (h : target ≤ 0xFF) :
    p.jumpTo target = .core p { p.core with pc := target } := by
  have hshort : target % 0x100 = target := Int.emod_eq_of_lt h0 (by omega)
  have hlong : wrap16 target = target := Int.emod_eq_of_lt h0 (by omega)
  rw [jumpTo, hshort, hlong, ite_self]

theorem drawSprite_truncating (x y : UInt8) (height : Nat) :
    (p.truncating b).drawSprite x y height = (p.drawSprite x y height).truncating b := by
  cases he : (p.memory.readEach p.core.index height).2 with
  | none =>
      rw [drawSprite_of_ok he, drawSprite_of_ok (p := p.truncating b) he]
      rfl
  | some e =>
      rw [drawSprite_of_error he, drawSprite_of_error (p := p.truncating b) he]
      rfl

theorem skipOnKey_truncating (key : UInt8) (held : Bool) :
    (p.truncating b).skipOnKey key held = (p.skipOnKey key held).truncating b := by
  by_cases hk : 16 ≤ key.toNat
  · rw [skipOnKey_of_le _ hk, skipOnKey_of_le _ hk]
    rfl
  · rw [skipOnKey_of_lt _ (Nat.not_le.mp hk), skipOnKey_of_lt _ (Nat.not_le.mp hk)]
    rfl

theorem awaitKey_truncating (r : Fin 16) :
    (p.truncating b).awaitKey r = (p.awaitKey r).truncating b := by
  have hfirst : (p.truncating b).keypad.first? = p.keypad.first? := rfl
  rw [awaitKey, awaitKey, hfirst]
  cases p.keypad.first? with
  | none => rfl
  | some key => rfl

/-- **No operation asks for the option** but a jump with an offset to beyond eight bits. -/
theorem perform_truncating (p : Processor) (opcode : Opcode)
    (h : op = .jumpOffset → opcode.nnn + (p.core.reg 0).toNat ≤ 0xFF) :
    (p.truncating b).perform op opcode = (p.perform op opcode).truncating b := by
  cases op with
  | jumpOffset =>
    have hnear := h rfl
    have hreg : (p.truncating b).core.reg 0 = p.core.reg 0 := rfl
    rw [perform, perform, hreg, jumpTo_near (by omega) (by omega),
      jumpTo_near (by omega) (by omega)]
    rfl
  | returnFromCall =>
    have hstack : (p.truncating b).core.stack = p.core.stack := rfl
    rw [perform, perform, leave, leave, hstack]
    cases p.core.stack with
    | nil => rfl
    | cons top rest => rfl
  | draw => exact drawSprite_truncating _ _ _
  | skipIfKey | skipUnlessKey => exact skipOnKey_truncating _ _
  | waitKey => exact awaitKey_truncating _
  | storeDigits | storeRegisters =>
    rw [perform, perform, storeAtIndex_eq, storeAtIndex_eq]
    rfl
  | loadRegisters =>
    rw [perform, perform, loadAtIndex_eq, loadAtIndex_eq]
    rfl
  | clearScreen | call | jump | skipIfEqualImmediate | skipUnlessEqualImmediate | skipIfEqual
  | skipUnlessEqual | loadImmediate | addImmediate | load | or | and | xor | add | subtract
  | subtractReverse | shiftRight | shiftLeft | loadIndex | random | readDelay | setDelay
  | setSound | addIndex | loadGlyph => rfl

/-! ### Steps and requests -/

theorem Steps.truncating (h : Steps p outcome q)
    (hnear : p.Next .jumpOffset → p.offsetTarget ≤ 0xFF) :
    Steps (p.truncating b) outcome (q.truncating b) := by
  cases h with
  | unfetched h => exact .unfetched (p := p.truncating b) h
  | illegal hf hl => exact .illegal (p := p.truncating b) hf hl
  | unknown hf hl hr => exact .unknown (p := p.truncating b) hf hl hr
  | @cut hf i op q fault hl hr hc =>
      have hp : (p.passed.truncating b).perform op p.opcode = ⟨q.truncating b, some fault⟩ := by
        rw [perform_truncating p.passed _ fun hop => hnear ⟨hf, i, hl, hop ▸ hr⟩,
          perform_of_cutShort hc, Effect.truncating]
      exact .cut (p := p.truncating b) hf hl hr (cutShort_of_perform hp)
  | @completed hf i op q hl hr hp =>
      have hp' : (p.passed.truncating b).perform op p.opcode = ⟨q.truncating b, none⟩ := by
        rw [perform_truncating p.passed _ fun hop => hnear ⟨hf, i, hl, hop ▸ hr⟩, hp,
          Effect.truncating]
      exact .completed (p := p.truncating b) hf hl hr hp'

/-- **A step that makes no far jump does the same whatever the option says**, completed or not. -/
theorem step_truncating (h : ¬ p.JumpsFar) :
    (p.truncating b).step = (p.step.1, p.step.2.truncating b) := by
  cases hn : p.halted with
  | true => rw [step_of_halted hn, step_of_halted (p := p.truncating b) hn]
  | false =>
      have hnear : p.Next .jumpOffset → p.offsetTarget ≤ 0xFF := by
        intro hnext
        by_contra hfar
        exact h ⟨hn, hnext, Nat.lt_of_not_le hfar⟩
      exact step_of_steps (p := p.truncating b) hn ((steps_of_running hn).truncating hnear)

variable {request : Request} {requests : List Request}

theorem serve_truncating (h : request = .step → ¬ p.JumpsFar) :
    (p.truncating b).serve request = (p.serve request).truncating b := by
  cases request with
  | step => rw [serve_step, serve_step, step_truncating (h rfl)]
  | press index down =>
    rw [serve_press, serve_press]
    rfl
  | tick | acknowledge => rfl

theorem answer_truncating (h : request = .step → ¬ p.JumpsFar) :
    (p.truncating b).answer request = p.answer request := by
  cases request with
  | step => rw [Processor.answer, Processor.answer, step_truncating (h rfl)]
  | press index down =>
    rw [Processor.answer, Processor.answer, press, press]
    cases Keypad.key? index with
    | some key => rfl
    | none => rfl
  | tick | acknowledge => rfl

theorem serveEach_truncating (h : p.StaysNear requests) :
    (p.truncating b).serveEach requests = (p.serveEach requests).truncating b := by
  induction requests generalizing p with
  | nil => rfl
  | cons request rest ih =>
      rw [serveEach_cons, serveEach_cons, serve_truncating h.1, ih h.2]

theorem trajectory_truncating (h : p.StaysNear requests) :
    (p.truncating b).trajectory requests
      = (p.trajectory requests).map fun seen => (seen.1, seen.2.truncating b) := by
  induction requests generalizing p with
  | nil => rfl
  | cons request rest ih =>
      rw [trajectory, trajectory, List.map_cons, answer_truncating h.1, serve_truncating h.1,
        ih h.2]

/-- Requests among which a far jump is made have a first step that makes one. -/
theorem exists_first_far (h : ¬ p.StaysNear requests) :
    ∃ before after, requests = before ++ .step :: after ∧ p.StaysNear before ∧
      (p.serveEach before).JumpsFar := by
  induction requests generalizing p with
  | nil => exact absurd trivial h
  | cons request rest ih =>
      by_cases hfar : request = .step ∧ p.JumpsFar
      · obtain ⟨rfl, hfar⟩ := hfar
        exact ⟨[], rest, rfl, trivial, hfar⟩
      · have hnear : request = .step → ¬ p.JumpsFar := fun hstep hjump => hfar ⟨hstep, hjump⟩
        obtain ⟨before, after, rfl, hbefore, hjump⟩ := ih fun hrest => h ⟨hnear, hrest⟩
        exact ⟨request :: before, after, rfl, ⟨hnear, hbefore⟩, hjump⟩

/-! ### The first far jump -/

/-- Under the standard table it is the opcodes that begin with `B`. -/
theorem jumpsFar_iff (ht : p.table = .standard) :
    p.JumpsFar ↔
      p.halted = false ∧ p.Fetches ∧ p.opcode.primary = 0xB ∧ 0xFF < p.offsetTarget := by
  constructor
  · intro h
    have hat := (next_iff_at ht .jumpOffset).mp h.next
    exact ⟨h.running, hat.1, hat.2, h.far⟩
  · rintro ⟨hn, hf, hb, hfar⟩
    exact ⟨hn, (next_iff_at ht .jumpOffset).mpr ⟨hf, hb⟩, hfar⟩

theorem offsetTarget_le (p : Processor) : p.offsetTarget ≤ 0x10FE := by
  have hnnn := p.opcode.nnn_lt
  have hreg := (p.core.reg 0).toNat_lt
  unfold offsetTarget
  omega

/-- Where a jump with an offset ends, cut or not. -/
theorem jumpTo_offsetTarget (p : Processor) :
    p.passed.jumpTo p.offsetTarget = .core p.passed { p.core with
      pc := if p.truncateJump then (p.offsetTarget % 0x100 : Nat) else p.offsetTarget } := by
  have hle := p.offsetTarget_le
  have hlong : wrap16 p.offsetTarget = p.offsetTarget := wrap16_eq (by omega) (by omega)
  rw [jumpTo, hlong]
  rfl

/-- A step that carries out a jump with an offset, whatever the option says. -/
theorem step_of_jumpOffset (hn : p.halted = false) (h : p.Next .jumpOffset) :
    ∃ i, ∀ b, (p.truncating b).step = (.completed ⟨p.opcode, i⟩,
      { p.truncating b with
        core := { p.core with
          pc := if b then (p.offsetTarget % 0x100 : Nat) else p.offsetTarget }
        completed := p.completed + 1 }) := by
  obtain ⟨hf, i, hl, hr⟩ := h
  refine ⟨i, fun b => ?_⟩
  exact step_of_steps (p := p.truncating b) hn
    (.completed (p := p.truncating b) hf hl hr (jumpTo_offsetTarget (p.truncating b)))

/-! ### A program that makes one -/

theorem fits_highJump : FitsProgramSpace highJump := by decide

/-- The highest jump there is comes next. -/
def beforeHighJump : Processor :=
  { loaded highJump plainSetup with
    core := { Core.initial.setReg 0 0xFF with pc := 0x202 }
    completed := 1 }

theorem opcode_beforeHighJump : beforeHighJump.opcode = 0xBFFF :=
  opcode_of_image fits_highJump rfl (k := 2) rfl (by decide)

theorem offsetTarget_beforeHighJump : beforeHighJump.offsetTarget = 0x10FE := by
  rw [offsetTarget, opcode_beforeHighJump]
  decide

theorem jumpsFar_beforeHighJump : beforeHighJump.JumpsFar := by
  refine (jumpsFar_iff rfl).mpr ⟨rfl, ?_, ?_, ?_⟩
  · exact fetches_of_image fits_highJump rfl (k := 2) rfl (by decide)
  · rw [opcode_beforeHighJump]
    decide
  · rw [offsetTarget_beforeHighJump]
    decide

/-- The step that loads the register leads there and jumps nowhere. -/
theorem step_highJump :
    ¬ (loaded highJump plainSetup).JumpsFar ∧
      (loaded highJump plainSetup).step.2 = beforeHighJump := by
  constructor
  · intro hjump
    have hat : (loaded highJump plainSetup).At .loadImmediate :=
      at_of_image fits_highJump rfl (k := 0) rfl (by decide) rfl (by decide)
    have hjump' := (next_iff_at rfl _).mp hjump.next
    exact absurd (hat.eq hjump') (by decide)
  · obtain ⟨i, hi⟩ := step_of_image (p := loaded highJump plainSetup) .loadImmediate
      fits_highJump rfl (k := 0) rfl (by decide) rfl (by decide) rfl rfl rfl
    rw [hi]
    rfl

/-- Timers that do not run are not changed by a tick. -/
theorem serve_tick_loaded (image : Array UInt8) (setup : Setup) :
    (loaded image setup).serve .tick = loaded image setup := by
  have hcore : Core.initial.tick = Core.initial := rfl
  rw [serve, tick, show (loaded image setup).core = Core.initial from rfl, hcore]
  rfl

/-! ### Two processors that differ in the option -/

/--
**The jump option changes far jumps and nothing else.**  Two processors that start with the
same program and the same random numbers and differ in the option answer alike and stay equal
after every request, until a step carries out a jump with an offset to beyond eight bits.  Of
requests among which there is such a step there is a first one; both processors complete it,
and they leave it equal but for the program counter: that is the whole target without the
option and its lowest eight bits with it.
-/
theorem truncation_cuts_far_jumps_only {image : Array UInt8} {setup : Setup}
    {wide narrow : Processor}
    (hwide : start image { setup with truncateJump := false } = .ok wide)
    (hnarrow : start image { setup with truncateJump := true } = .ok narrow)
    (requests : List Request) :
    (wide.StaysNear requests →
      narrow.trajectory requests
          = (wide.trajectory requests).map (fun seen => (seen.1, seen.2.truncating true)) ∧
        narrow.serveEach requests = (wide.serveEach requests).truncating true) ∧
    (¬ wide.StaysNear requests → ∃ before after p,
      requests = before ++ .step :: after ∧ wide.StaysNear before ∧
        wide.serveEach before = p ∧ p.JumpsFar ∧ p.offsetTarget ≤ 0x10FE ∧
        ∃ decoded q,
          p.step = (.completed decoded, q) ∧ q.core.pc = p.offsetTarget ∧
          (narrow.serveEach before).step = (.completed decoded, { q.truncating true with
            core := { q.core with pc := (p.offsetTarget % 0x100 : Nat) } })) ∧
    (setup.table = .standard → ∀ p, wide.serveEach requests = p →
      (p.JumpsFar ↔
        p.halted = false ∧ p.Fetches ∧ p.opcode.primary = 0xB ∧ 0xFF < p.offsetTarget)) := by
  have hreach := Reachable.start hwide
  obtain ⟨-, rfl⟩ := start_eq_ok_iff.mp hwide
  obtain ⟨-, rfl⟩ := start_eq_ok_iff.mp hnarrow
  have hpair : loaded image { setup with truncateJump := true }
      = (loaded image { setup with truncateJump := false }).truncating true := rfl
  rw [hpair]
  generalize hw : loaded image { setup with truncateJump := false } = wide at *
  have hwide : wide.truncating false = wide := by rw [← hw]; rfl
  refine ⟨fun hnear => ⟨trajectory_truncating hnear, serveEach_truncating hnear⟩, ?_, ?_⟩
  · intro hfar
    obtain ⟨before, after, hsplit, hbefore, hjump⟩ := exists_first_far hfar
    obtain ⟨i, hstep⟩ := step_of_jumpOffset hjump.running hjump.next
    have hkept : (wide.serveEach before).truncating false = wide.serveEach before := by
      rw [← serveEach_truncating hbefore, hwide]
    refine ⟨before, after, _, hsplit, hbefore, rfl, hjump, offsetTarget_le _, ⟨_, i⟩, _,
      hkept ▸ hstep false, rfl, ?_⟩
    rw [serveEach_truncating hbefore]
    exact hstep true
  · rintro ht p rfl
    exact jumpsFar_iff ((hreach.serveEach requests).table.trans ht)

/-- The two come to the high jump alike, around a tick, and there they part. -/
theorem truncation_cuts_far_jumps_only_highJump :
    ∃ wide narrow : Processor,
      start highJump { plainSetup with truncateJump := false } = .ok wide ∧
      start highJump { plainSetup with truncateJump := true } = .ok narrow ∧
      narrow.serveEach [.tick, .step] = (wide.serveEach [.tick, .step]).truncating true ∧
      (wide.serveEach [.tick, .step]).offsetTarget = 0x10FE ∧
      (∃ before after, [.tick, .step, .step] = before ++ .step :: after ∧
        wide.StaysNear before ∧ (wide.serveEach before).JumpsFar) := by
  have hwide : start highJump { plainSetup with truncateJump := false }
      = .ok (loaded highJump plainSetup) := start_eq_ok_iff.mpr ⟨fits_highJump, rfl⟩
  have hnarrow : start highJump { plainSetup with truncateJump := true }
      = .ok ((loaded highJump plainSetup).truncating true) :=
    start_eq_ok_iff.mpr ⟨fits_highJump, rfl⟩
  obtain ⟨hload, hstep⟩ := step_highJump
  have hserve : (loaded highJump plainSetup).serveEach [.tick, .step] = beforeHighJump := by
    rw [serveEach_cons, serve_tick_loaded, serveEach_cons, serveEach_nil, serve_step, hstep]
  have hnear : (loaded highJump plainSetup).StaysNear [.tick, .step] := by
    rw [StaysNear, StaysNear, serve_tick_loaded]
    refine ⟨?_, fun _ => hload, trivial⟩
    intro htick
    cases htick
  have hfar : ¬ (loaded highJump plainSetup).StaysNear [.tick, .step, .step] := by
    rintro ⟨-, -, hlast, -⟩
    refine hlast rfl ?_
    rw [← serveEach_nil (serve _ .step), ← serveEach_cons, ← serveEach_cons, hserve]
    exact jumpsFar_beforeHighJump
  have hparts := truncation_cuts_far_jumps_only hwide hnarrow
  obtain ⟨before, after, p, hsplit, hbefore, rfl, hp, -⟩ := (hparts [.tick, .step, .step]).2.1 hfar
  refine ⟨_, _, hwide, hnarrow, ((hparts [.tick, .step]).1 hnear).2, ?_, before, after, hsplit,
    hbefore, hp⟩
  rw [hserve, offsetTarget_beforeHighJump]

end Chip8.Processor
