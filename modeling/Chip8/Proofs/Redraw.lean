/-
What the redraw note means.

An operation that draws leaves a note when it is completed, and the host takes the note back
when it has shown the screen.  The note itself remembers nothing of this, so its meaning is a
matter of what the processor was asked for: `steppedSince` lists the processors that had to step
since the screen was last shown.

A drawing that a fault cuts short is on the screen, but no note is made of it.  Such a step
`Smears`, and without one a screen never changes unnoticed.
-/
import Chip8.Proofs.Footprint
import Mathlib.Data.List.DropRight

namespace Chip8.Processor

/-! ### Steps that draw -/

/-- Whether a processor is about to complete an operation that draws. -/
def Marks (p : Processor) : Prop :=
  (∃ decoded, p.step.1 = .completed decoded) ∧ (p.Next .clearScreen ∨ p.Next .draw)

/-- Whether a fault is about to cut a drawing short. -/
def Smears (p : Processor) : Prop :=
  p.halted = false ∧ (∃ fault reached, p.step.1 = .failed fault reached) ∧ p.Next .draw

variable {p q : Processor} {request : Request} {requests : List Request} {fault : Fault}
  {reached : Option Decoded}

theorem redraw_of_failed (hs : p.step.1 = .failed fault reached) :
    p.step.2.redraw = p.redraw ∧ (¬ p.Smears → p.step.2.screen = p.screen) := by
  cases hn : p.halted with
  | true =>
      rw [step_of_halted hn]
      exact ⟨rfl, fun _ => rfl⟩
  | false =>
      have hsmears : p.Next .draw → p.Smears := fun hnext => ⟨hn, ⟨fault, reached, hs⟩, hnext⟩
      have hsteps := steps_of_running hn
      generalize p.step = result at hs hsteps
      obtain ⟨outcome, q⟩ := result
      cases hsteps with
      | unfetched | illegal | unknown => exact ⟨rfl, fun _ => rfl⟩
      | cut hf hl hr hc =>
          cases hc with
          | emptyStack | noSuchKey | store | loadRegisters => exact ⟨rfl, fun _ => rfl⟩
          | draw => exact ⟨rfl, fun hnot => absurd (hsmears ⟨hf, _, hl, hr⟩) hnot⟩
      | completed => cases hs

/-- A step that draws leaves a note of it, and no other step changes the screen but one whose
drawing is cut short. -/
theorem Bounded.redraw_step (h : p.Bounded) :
    (p.step.2.redraw = true ↔ p.redraw = true ∨ p.Marks) ∧
      (¬ p.Marks → ¬ p.Smears → p.step.2.screen = p.screen) := by
  cases hs : p.step.1 with
  | failed fault reached =>
      have hnot : ¬ p.Marks := by
        rintro ⟨⟨decoded, hd⟩, -⟩
        rw [hs] at hd
        cases hd
      obtain ⟨hredraw, hscreen⟩ := redraw_of_failed hs
      exact ⟨by rw [hredraw, or_iff_left hnot], fun _ => hscreen⟩
  | completed decoded =>
      obtain ⟨-, op, q, hnext, hp, hq⟩ := next_of_completed hs
      have hframed := (h.passed hnext.1).framed_perform hp
      have hmarks : p.Marks ↔ op ∈ [.clearScreen, .draw] := by
        constructor
        · rintro ⟨-, hclear | hdraw⟩
          · simp [hnext.eq hclear]
          · simp [hnext.eq hdraw]
        · intro hop
          rcases List.mem_pair.mp hop with rfl | rfl
          · exact ⟨⟨decoded, hs⟩, .inl hnext⟩
          · exact ⟨⟨decoded, hs⟩, .inr hnext⟩
      rw [hq, hmarks]
      constructor
      · rw [hframed.redraw, Bool.or_eq_true, decide_eq_true_iff]
        rfl
      · intro hop _
        exact hframed.screen hop

/-! ### Requests -/

theorem Bounded.redraw_serve (h : p.Bounded) (hne : request ≠ .acknowledge) :
    ((p.serve request).redraw = true ↔ p.redraw = true ∨ ∃ q ∈ p.asked request, q.Marks) ∧
      ((∀ q ∈ p.asked request, ¬ q.Marks ∧ ¬ q.Smears) →
        (p.serve request).screen = p.screen) := by
  cases request with
  | step =>
    obtain ⟨hredraw, hscreen⟩ := h.redraw_step
    simp only [asked, List.mem_singleton, exists_eq_left, forall_eq]
    exact ⟨hredraw, fun hnot => hscreen hnot.1 hnot.2⟩
  | tick => exact ⟨by simp [asked, Processor.serve, Processor.tick], fun _ => rfl⟩
  | press index down =>
    rw [serve_press]
    simp [asked]
  | acknowledge => exact absurd rfl hne

/-- **What requests leave of the note and of the screen**, if none of them takes the note back. -/
theorem Bounded.redraw_serveEach (h : p.Bounded) (hne : ∀ request ∈ requests,
    request ≠ .acknowledge) :
    ((p.serveEach requests).redraw = true ↔
        p.redraw = true ∨ ∃ q ∈ p.stepped requests, q.Marks) ∧
      ((∀ q ∈ p.stepped requests, ¬ q.Marks ∧ ¬ q.Smears) →
        (p.serveEach requests).screen = p.screen) := by
  induction requests generalizing p with
  | nil => simp [stepped]
  | cons request rest ih =>
      obtain ⟨hfirst, hrest⟩ := List.forall_mem_cons.mp hne
      obtain ⟨hredraw, hscreen⟩ := h.redraw_serve hfirst
      obtain ⟨hredraw', hscreen'⟩ := ih (h.serve request) hrest
      rw [serveEach_cons, stepped]
      constructor
      · simp only [hredraw', hredraw, List.mem_append, or_and_right, exists_or, or_assoc]
      · intro hnot
        obtain ⟨hnow, hlater⟩ := List.forall_mem_append.mp hnot
        rw [hscreen' hlater, hscreen hnow]

/-! ### Since the screen was last shown -/

/-- Whether the host takes the note back. -/
def Request.acknowledges : Request → Bool
  | .acknowledge => true
  | .step | .tick | .press _ _ => false

theorem Request.acknowledges_iff : request.acknowledges = true ↔ request = .acknowledge := by
  cases request <;> simp [acknowledges]

/-- The processor when the host had last shown its screen, or else before all requests. -/
def lastShown (p : Processor) (requests : List Request) : Processor :=
  p.serveEach (requests.rdropWhile fun request => !request.acknowledges)

/-- The processors that had to step since then. -/
def steppedSince (p : Processor) (requests : List Request) : List Processor :=
  (p.lastShown requests).stepped (requests.rtakeWhile fun request => !request.acknowledges)

theorem serveEach_lastShown (p : Processor) (requests : List Request) :
    (p.lastShown requests).serveEach
      (requests.rtakeWhile fun request => !request.acknowledges) = p.serveEach requests := by
  rw [lastShown, ← serveEach_append, List.rdropWhile_append_rtakeWhile]

/-- There is no note when the screen was just shown, and none before all requests. -/
theorem redraw_lastShown (hp : p.redraw = false) (requests : List Request) :
    (p.lastShown requests).redraw = false := by
  unfold lastShown
  generalize hbefore : requests.rdropWhile (fun request => !request.acknowledges) = before
  rcases List.eq_nil_or_concat' before with rfl | ⟨earlier, last, rfl⟩
  · exact hp
  · have hlast : last = .acknowledge := by
      have hnot := List.rdropWhile_last_not (fun request : Request => !request.acknowledges)
        requests (by rw [hbefore]; simp)
      simp only [hbefore] at hnot
      simpa [Request.acknowledges_iff] using hnot
    rw [hlast, serveEach_append]
    rfl

variable {setup : Setup} {image : Array UInt8}

/-- Under the standard table the opcodes that draw are known. -/
theorem marks_iff (ht : p.table = .standard) :
    p.Marks ↔ (∃ decoded, p.step.1 = .completed decoded) ∧
      (p.opcode = 0x00E0 ∨ p.opcode.primary = 0xD) := by
  unfold Marks
  refine and_congr_right ?_
  rintro ⟨decoded, hd⟩
  obtain ⟨-, op, q, ⟨hf, -⟩, -⟩ := next_of_completed hd
  rw [next_iff_at ht, next_iff_at ht, At, At, and_iff_right hf, and_iff_right hf, Opcode.Encodes,
    Opcode.Encodes, opcode_emod]

theorem smears_iff (ht : p.table = .standard) :
    p.Smears ↔ p.halted = false ∧ (∃ fault reached, p.step.1 = .failed fault reached) ∧
      p.Fetches ∧ p.opcode.primary = 0xD := by
  rw [Smears, next_iff_at ht]
  rfl

/--
**The note tells whether something was drawn since the screen was last shown**, or since the
start if it never was: it is there exactly if an operation that draws was completed, even one
that draws nothing.  If it is not there, and no drawing was cut short, the screen is still the
one that was shown.  With the console's own table the operations that draw are the opcodes
`00E0` and those that begin with `D`.
-/
theorem redraw_tells_of_drawing (hp : start image setup = .ok p) (requests : List Request) :
    ((p.serveEach requests).redraw = true ↔ ∃ q ∈ p.steppedSince requests, q.Marks) ∧
    ((p.serveEach requests).redraw = false →
      (∀ q ∈ p.steppedSince requests, ¬ q.Smears) →
        (p.serveEach requests).screen = (p.lastShown requests).screen) ∧
    (setup.table = .standard → ∀ q ∈ p.steppedSince requests,
      (q.Marks ↔ (∃ decoded, q.step.1 = .completed decoded) ∧
        (q.opcode = 0x00E0 ∨ q.opcode.primary = 0xD)) ∧
      (q.Smears ↔ q.halted = false ∧ (∃ fault reached, q.step.1 = .failed fault reached) ∧
        q.Fetches ∧ q.opcode.primary = 0xD)) := by
  have hreach := Reachable.start hp
  have hshown : Reachable setup (p.lastShown requests) := hreach.serveEach _
  have hblank : p.redraw = false := by
    obtain ⟨-, rfl⟩ := start_eq_ok_iff.mp hp
    rfl
  have hnone : ∀ request ∈ requests.rtakeWhile (fun request => !request.acknowledges),
      request ≠ .acknowledge := by
    intro request hmem he
    have hnot := List.mem_rtakeWhile_imp hmem
    simp [he, Request.acknowledges] at hnot
  obtain ⟨hredraw, hscreen⟩ := hshown.bounded.redraw_serveEach hnone
  rw [serveEach_lastShown, redraw_lastShown hblank, or_iff_right (by decide)] at hredraw
  rw [serveEach_lastShown] at hscreen
  refine ⟨hredraw, ?_, ?_⟩
  · intro hclean hsmears
    refine hscreen fun q hq => ⟨?_, hsmears q hq⟩
    intro hmarks
    rw [hredraw.mpr ⟨q, hq, hmarks⟩] at hclean
    cases hclean
  · intro ht q hq
    have htable : q.table = .standard := (hshown.of_mem_stepped hq).table.trans ht
    exact ⟨marks_iff htable, smears_iff htable⟩

/-- A program that draws a sprite without rows. -/
def emptyDraw : Array UInt8 := #[0xD0, 0x00]

theorem fits_emptyDraw : FitsProgramSpace emptyDraw := by decide

/-- The sprite is drawn from any processor that has yet to begin with the program. -/
theorem marks_emptyDraw (hr : Reachable plainSetup p) (hm : p.memory = Memory.loaded emptyDraw)
    (hn : p.halted = false) (hpc : p.core.pc = 0x200) : p.Marks := by
  have hopcode : p.opcode = 0xD000 := opcode_of_image fits_emptyDraw hm (k := 0) hpc (by decide)
  have hat : p.At .draw :=
    at_of_image fits_emptyDraw hm (k := 0) hpc (by decide) rfl (by decide)
  have hnext : p.Next .draw := (next_iff_at hr.table _).mpr hat
  have hempty : p.opcode.n = 0 := by
    rw [hopcode]
    rfl
  obtain ⟨i, hstep⟩ := hr.bounded.step_of_draw hn hnext (.inl hempty)
  exact ⟨⟨_, by rw [hstep]⟩, .inr hnext⟩

/-- The note is made of it, and when it was taken back a tick does not bring it again. -/
theorem redraw_tells_of_drawing_emptyDraw :
    ∃ p, start emptyDraw plainSetup = .ok p ∧
      (p.serveEach [.acknowledge, .tick, .step]).redraw = true ∧
      (p.serveEach [.step, .acknowledge, .tick]).screen
        = (p.serveEach [.step, .acknowledge]).screen := by
  have hp : start emptyDraw plainSetup = .ok (loaded emptyDraw plainSetup) :=
    start_eq_ok_iff.mpr ⟨fits_emptyDraw, rfl⟩
  have hnone : (loaded emptyDraw plainSetup).steppedSince [.step, .acknowledge, .tick] = [] := rfl
  obtain ⟨hdrawn, -⟩ := redraw_tells_of_drawing hp [.acknowledge, .tick, .step]
  obtain ⟨hclean, hkept, -⟩ := redraw_tells_of_drawing hp [.step, .acknowledge, .tick]
  rw [hnone] at hclean hkept
  refine ⟨_, hp, ?_, ?_⟩
  · have hwaiting : Reachable plainSetup
        ((loaded emptyDraw plainSetup).serveEach [.acknowledge, .tick]) :=
      (Reachable.start hp).serveEach _
    exact hdrawn.mpr ⟨_, List.mem_singleton_self _, marks_emptyDraw hwaiting rfl rfl rfl⟩
  · refine hkept ?_ (by simp)
    rw [Bool.eq_false_iff, ne_eq, hclean]
    simp

end Chip8.Processor
