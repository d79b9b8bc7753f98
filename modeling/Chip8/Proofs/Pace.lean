/-
What a program can tell about the clock.

The clock decides where the ticks fall between the instructions of a program and nothing
else.  A tick changes the timers only, and only one instruction looks at a timer, the one that
reads the delay timer; the two that set a timer overwrite it whatever it was.  So a step does
the same to two processors that differ in their timers at most (`step_agree`), as long as it
does not read the delay timer.

A run of frames is a chain of completed steps with ticks anywhere in between (`Paced`).  Two
such chains of the same length that start alike end alike (`Paced.agree`), wherever their
ticks are, if one of them never reads the delay timer; and therefore they also fail alike,
at the same step.
-/
import Chip8.Proofs.Commuting
import Chip8.Proofs.Stopped

namespace Chip8

namespace Processor

/-- The processor with both timers at zero. -/
def untimed (p : Processor) : Processor :=
  p.touch { delay := fun _ => 0, sound := fun _ => 0 }

variable {p p' q q' r' : Processor} {fault fault' : Fault} {reached reached' : Option Decoded}

/-! ### Steps that do not look at the timers -/

theorem untimed_tick (p : Processor) : p.tick.untimed = p.untimed := rfl

theorem next_of_untimed (h : p.untimed = p'.untimed) (op : Operation) : p.Next op ↔ p'.Next op := by
  have hnext : p.untimed.Next op ↔ p'.untimed.Next op := by rw [h]
  exact hnext

theorem step_untimed (hr : ¬ p.Next .readDelay) :
    p.untimed.step.1 = p.step.1 ∧ p.untimed.step.2.untimed = p.step.2.untimed := by
  by_cases hset : p.halted = false ∧ ∃ op ∈ [Operation.setDelay, .setSound], p.Next op
  · -- An instruction that sets a timer is not spared, but it does not look at what it replaces.
    obtain ⟨hn, op, hop, hf, i, hl, hi⟩ := hset
    simp only [List.mem_cons, List.not_mem_nil, or_false] at hop
    rcases hop with rfl | rfl
    · rw [step_of_steps hn (.completed hf hl hi rfl),
        step_of_steps (p := p.untimed) hn (.completed (p := p.untimed) hf hl hi rfl)]
      exact ⟨rfl, rfl⟩
    · rw [step_of_steps hn (.completed hf hl hi rfl),
        step_of_steps (p := p.untimed) hn (.completed (p := p.untimed) hf hl hi rfl)]
      exact ⟨rfl, rfl⟩
  · cases hn : p.halted with
    | true =>
        rw [step_of_halted hn, step_of_halted (p := p.untimed) hn]
        exact ⟨rfl, rfl⟩
    | false =>
        have hnot : ∀ op ∈ [Operation.setDelay, .setSound], ¬ p.Next op :=
          fun op hop hnext => hset ⟨hn, op, hop, hnext⟩
        rw [untimed, step_touch]
        · exact ⟨rfl, rfl⟩
        · intro op hop
          refine ⟨?_, ?_, fun _ => rfl, fun _ => rfl⟩
          · intro hmem
            simp only [List.mem_cons, List.not_mem_nil, or_false] at hmem
            rcases hmem with rfl | rfl
            · exact absurd hop hr
            · exact absurd hop (hnot _ (by decide))
          · rintro rfl
            exact absurd hop (hnot _ (by decide))

/-- **A step that does not read the delay timer does the same whatever the timers are.** -/
theorem step_agree (h : p.untimed = p'.untimed) (hr : ¬ p.Next .readDelay) :
    p.step.1 = p'.step.1 ∧ p.step.2.untimed = p'.step.2.untimed := by
  have hr' : ¬ p'.Next .readDelay := fun hnext => hr ((next_of_untimed h _).mpr hnext)
  obtain ⟨houtcome, hstate⟩ := step_untimed hr
  obtain ⟨houtcome', hstate'⟩ := step_untimed hr'
  rw [h] at houtcome hstate
  exact ⟨houtcome.symm.trans houtcome', hstate.symm.trans hstate'⟩

/-- Reading the delay timer never fails. -/
theorem not_next_of_failed (hn : p.halted = false) (h : p.step.1 = .failed fault reached) :
    ¬ p.Next .readDelay := by
  rintro ⟨hf, i, hl, hi⟩
  rw [step_of_steps hn (.completed hf hl hi rfl)] at h
  cases h

/-! ### Steps with ticks in between -/

/-- What can be behind so many completed steps, with a tick here and there. -/
inductive Paced (p : Processor) : List Processor → Processor → Prop
  | start : Paced p [] p
  | step {steps : List Processor} {q next : Processor} {decoded : Decoded} (h : Paced p steps q)
      (hs : q.step = (.completed decoded, next)) : Paced p (steps ++ [q]) next
  | tick {steps : List Processor} {q : Processor} (h : Paced p steps q) : Paced p steps q.tick

namespace Paced

variable {steps steps' before rest : List Processor} {r : Processor} {count : Nat}

theorem completed (h : Paced p steps q) : q.completed = p.completed + steps.length := by
  induction h with
  | start => rfl
  | step _ hs ih => simp [completed_of_step hs, ih, Nat.add_assoc]
  | tick _ ih => exact ih

theorem behind (h : Paced p steps q) (hc : Completes count q r) :
    Paced p (steps ++ q.tried count) r := by
  induction hc generalizing steps with
  | refl q => simpa [tried] using h
  | step hs _ ih =>
      rw [tried_succ_of_completed hs]
      simpa using ih (h.step hs)

/-- The last step of a chain leaves what the chain ends in, up to the timers. -/
theorem last (h : Paced p steps q) :
    steps = [] ∧ q.untimed = p.untimed ∨
      ∃ before r decoded next, steps = before ++ [r] ∧ Paced p before r ∧
        r.step = (.completed decoded, next) ∧ q.untimed = next.untimed := by
  induction h with
  | start => exact .inl ⟨rfl, rfl⟩
  | @step steps q next decoded h hs _ => exact .inr ⟨steps, q, decoded, next, rfl, h, hs, rfl⟩
  | tick _ ih =>
      rw [untimed_tick]
      exact ih

/-- Every step of a chain is behind a shorter one. -/
theorem at_step (h : Paced p steps q) (hsplit : steps = before ++ r :: rest) :
    Paced p before r ∧ ∃ decoded, r.step.1 = .completed decoded := by
  induction h generalizing rest with
  | start => simp at hsplit
  | @step steps q next decoded h hs ih =>
      rcases List.eq_nil_or_concat rest with rfl | ⟨rest, x, rfl⟩
      · obtain ⟨rfl, hlast⟩ := List.append_inj' hsplit rfl
        obtain rfl : q = r := by simpa using hlast
        exact ⟨h, decoded, by rw [hs]⟩
      · have heq : steps ++ [q] = (before ++ r :: rest) ++ [x] := by simpa using hsplit
        exact ih (List.append_inj' heq rfl).1
  | tick _ ih => exact ih hsplit

theorem table (h : Paced p steps q) : q.table = p.table := by
  induction h with
  | start => rfl
  | @step steps q next decoded _ hs ih =>
      have hserve := table_serve q .step
      rw [serve_step, hs] at hserve
      exact hserve.trans ih
  | tick _ ih => exact ih

/-- **Chains of the same length end alike up to the timers**, wherever their ticks are. -/
theorem agree (ht : p.table = .standard) (h : Paced p steps q) (h' : Paced p steps' q')
    (hlength : steps.length = steps'.length) (hr : ∀ r ∈ steps, ¬ r.At .readDelay) :
    q.untimed = q'.untimed := by
  induction h generalizing steps' q' with
  | start =>
      rcases h'.last with ⟨rfl, hq⟩ | ⟨before, r, _, _, rfl, _⟩
      · exact hq.symm
      · simp at hlength
  | @step steps q next decoded h hs ih =>
      rcases h'.last with ⟨rfl, _⟩ | ⟨before, r, decoded', next', rfl, hbefore, hstep, hq⟩
      · simp at hlength
      · rw [List.forall_mem_append, List.forall_mem_singleton] at hr
        have hagree := ih hbefore (by simpa using hlength) hr.1
        have hnot : ¬ q.Next .readDelay :=
          fun hnext => hr.2 ((next_iff_at (h.table.trans ht) _).mp hnext)
        obtain ⟨-, hnext⟩ := step_agree hagree hnot
        rw [hs, hstep] at hnext
        exact hnext.trans hq.symm
  | tick _ ih =>
      rw [untimed_tick]
      exact ih h' hlength hr

theorem agree_of_either (ht : p.table = .standard) (h : Paced p steps q) (h' : Paced p steps' q')
    (hlength : steps.length = steps'.length)
    (hr : (∀ r ∈ steps, ¬ r.At .readDelay) ∨ ∀ r ∈ steps', ¬ r.At .readDelay) :
    q.untimed = q'.untimed := by
  rcases hr with hr | hr
  · exact agree ht h h' hlength hr
  · exact (agree ht h' h hlength.symm hr).symm

/-- No chain goes on behind a step that fails in another. -/
theorem length_le_of_failed (ht : p.table = .standard) (h : Paced p steps q)
    (hn : q.halted = false) (hs : q.step = (.failed fault reached, r)) (h' : Paced p steps' q')
    (hr : (∀ r ∈ steps, ¬ r.At .readDelay) ∨
      ∀ r ∈ steps'.take steps.length, ¬ r.At .readDelay) :
    steps'.length ≤ steps.length := by
  refine Nat.le_of_not_lt fun hlt => ?_
  have hsplit : steps' = steps'.take steps.length
      ++ steps'[steps.length] :: steps'.drop (steps.length + 1) := by simp
  obtain ⟨hshorter, decoded, hd⟩ := h'.at_step hsplit
  have hagree := agree_of_either ht h hshorter (by simp; omega) hr
  have hfailed : q.step.1 = .failed fault reached := by rw [hs]
  rw [← (step_agree hagree (not_next_of_failed hn hfailed)).1, hfailed] at hd
  cases hd

/-- **Chains that begin alike fail at the same step**, with the same fault. -/
theorem failed_agree (ht : p.table = .standard) (h : Paced p steps q) (hn : q.halted = false)
    (hs : q.step = (.failed fault reached, r)) (h' : Paced p steps' q') (hn' : q'.halted = false)
    (hs' : q'.step = (.failed fault' reached', r'))
    (hr : (∀ r ∈ steps, ¬ r.At .readDelay) ∨
      ∀ r ∈ steps'.take steps.length, ¬ r.At .readDelay) :
    fault' = fault ∧ r'.untimed = r.untimed := by
  have hle := length_le_of_failed ht h hn hs h' hr
  rw [List.take_of_length_le hle] at hr
  have hge : steps.length ≤ steps'.length := by
    refine length_le_of_failed ht h' hn' hs' h ?_
    rcases hr with hr | hr
    · exact .inr fun r hmem => hr r (List.mem_of_mem_take hmem)
    · exact .inl hr
  have hagree := agree_of_either ht h h' (Nat.le_antisymm hge hle) hr
  have hfailed : q.step.1 = .failed fault reached := by rw [hs]
  obtain ⟨houtcome, hstate⟩ := step_agree hagree (not_next_of_failed hn hfailed)
  rw [hs, hs'] at houtcome hstate
  cases houtcome
  exact ⟨rfl, hstate.symm⟩

theorem running (h : Paced p steps q) (hn : p.halted = false) : q.halted = false := by
  induction h with
  | start => exact hn
  | step _ hs _ => exact halted_of_completed hs
  | tick _ ih => exact ih

end Paced

end Processor

namespace Console

open Processor (Completes Paced)

variable {c : Console} {fault : Fault} {m : Nat}

/-! ### Frames -/

theorem paced_afterFrames (hn : (c.afterFrames m).processor.halted = false) :
    Paced c.processor (c.triedIn m) (c.afterFrames m).processor := by
  induction m with
  | zero => exact .start
  | succ m ih =>
      have hrunning : (c.afterFrames m).processor.halted = false := by
        by_contra hm
        have hfrozen := frozen_runFrame (.refl (Bool.eq_true_of_not_eq_false hm))
        rw [afterFrames, hfrozen.halted] at hn
        cases hn
      rw [afterFrames] at hn ⊢
      cases hout : (c.afterFrames m).runFrame.outcome with
      | ok n =>
          have hwhole := whole_of_ok hout
          have hcompletes := hwhole.completes
          rw [clock_afterFrames] at hcompletes
          rw [hwhole.ticks]
          exact ((ih hrunning).behind hcompletes).tick
      | error fault =>
          obtain ⟨k, q, hcut⟩ := runFrame_error_iff.mp hout
          rw [(runFrame_of_cutAt hcut).2.2] at hn
          obtain ⟨-, p, reached, -, hstep⟩ := hcut
          rw [Processor.halted_of_failed hstep] at hn
          cases hn

/-- A frame that is cut ends in a step that fails behind a chain of completed ones. -/
theorem paced_of_error (hn : (c.afterFrames m).processor.halted = false)
    (h : (c.afterFrames m).runFrame.outcome = .error fault) :
    ∃ steps q reached, c.triedIn (m + 1) = steps ++ [q] ∧ Paced c.processor steps q ∧
      q.step = (.failed fault reached, (c.afterFrames (m + 1)).processor) := by
  obtain ⟨k, final, hcut⟩ := runFrame_error_iff.mp h
  have hfinal : (c.afterFrames (m + 1)).processor = final := by
    rw [afterFrames, (runFrame_of_cutAt hcut).2.2]
  obtain ⟨hk, q, reached, hq, hstep⟩ := hcut
  rw [clock_afterFrames] at hk
  obtain ⟨more, hmore⟩ : ∃ more, c.clock.perFrame = k + (more + 1) :=
    ⟨c.clock.perFrame - k - 1, by omega⟩
  refine ⟨c.triedIn m ++ (c.afterFrames m).processor.tried k, q, reached, ?_, ?_, ?_⟩
  · rw [triedIn, hmore, hq.tried_add, Processor.tried_succ_of_failed hstep, List.append_assoc]
  · exact (paced_afterFrames hn).behind hq
  · rw [hfinal, hstep]

/-- What fails in a frame of one console fails in the frame of the other that gets there. -/
theorem error_of_error {c' : Console} {n : Nat} (hp : c'.processor = c.processor)
    (ht : c.processor.table = .standard) (hrunning : c.processor.halted = false)
    (hn : (c.afterFrames m).processor.halted = false)
    (hn' : (c'.afterFrames n).processor.halted = false)
    (herror : (c.afterFrames m).runFrame.outcome = .error fault)
    (hlt : (c.afterFrames (m + 1)).processor.completed
      < (c'.afterFrames n).processor.completed + c'.clock.perFrame)
    {count : Nat} (hcount : (c.afterFrames (m + 1)).processor.completed
      = c.processor.completed + count)
    (hr : (∀ r ∈ (c.triedIn (m + 1)).take count, ¬ r.At .readDelay) ∨
      ∀ r ∈ (c'.triedIn (n + 1)).take count, ¬ r.At .readDelay) :
    (c'.afterFrames n).runFrame.outcome = .error fault ∧
      (c'.afterFrames (n + 1)).processor.untimed = (c.afterFrames (m + 1)).processor.untimed := by
  obtain ⟨steps, q, reached, htried, hq, hstep⟩ := paced_of_error hn herror
  obtain rfl : steps.length = count := by
    rw [Processor.completed_of_failed hstep, hq.completed] at hcount
    exact Nat.add_left_cancel hcount
  rw [htried, List.take_left] at hr
  cases hout : (c'.afterFrames n).runFrame.outcome with
  | ok k =>
      -- The chain of the other console would go on behind the step that fails.
      have hcompletes := (whole_of_ok hout).completes
      rw [clock_afterFrames] at hcompletes
      have hpaced := paced_afterFrames hn'
      have hlong := hpaced.behind hcompletes
      rw [hp] at hpaced hlong
      have hlength := Paced.length_le_of_failed ht hq (hq.running hrunning) hstep hlong hr
      rw [List.length_append, hcompletes.length_tried] at hlength
      rw [hcount, hpaced.completed] at hlt
      omega
  | error fault' =>
      obtain ⟨steps', q', reached', htried', hq', hstep'⟩ := paced_of_error hn' hout
      rw [hp] at hq'
      rw [htried', List.take_append, List.forall_mem_append] at hr
      obtain ⟨rfl, hagree⟩ := Paced.failed_agree ht hq (hq.running hrunning) hstep hq'
        (hq'.running hrunning) hstep' (hr.imp_right And.left)
      exact ⟨rfl, hagree⟩

/--
**The clock is invisible to a program that does not read the delay timer.**  Two consoles that
run one program under different clocks agree in everything but the timers once they have
completed the same number of instructions, if one of them has not read the delay timer until
then; and if the next instruction fails on one of them, it fails on the other one alike.
-/
theorem clock_invisible {image : Array UInt8} {setup : Processor.Setup} {clock clock' : Clock}
    {history history' : Option History} {c' : Console} (ht : setup.table = .standard)
    (hc : start image setup clock history = .ok c)
    (hc' : start image setup clock' history' = .ok c') {m n : Nat}
    (hn : (c.afterFrames m).processor.halted = false)
    (hn' : (c'.afterFrames n).processor.halted = false) :
    ((c.afterFrames m).processor.completed = (c'.afterFrames n).processor.completed →
      (∀ r ∈ c.triedIn m, ¬ r.At .readDelay) ∨ (∀ r ∈ c'.triedIn n, ¬ r.At .readDelay) →
      (c.afterFrames m).processor.untimed = (c'.afterFrames n).processor.untimed) ∧
    ∀ fault count, (c.afterFrames m).runFrame.outcome = .error fault →
      (c.afterFrames (m + 1)).processor.completed = count →
      count < (c'.afterFrames n).processor.completed + clock'.perFrame →
      (∀ r ∈ (c.triedIn (m + 1)).take count, ¬ r.At .readDelay) ∨
        (∀ r ∈ (c'.triedIn (n + 1)).take count, ¬ r.At .readDelay) →
      (c'.afterFrames n).runFrame.outcome = .error fault ∧
      (c'.afterFrames (n + 1)).processor.untimed = (c.afterFrames (m + 1)).processor.untimed := by
  obtain ⟨-, -, -, rfl⟩ := start_eq_ok_iff.mp hc
  obtain ⟨-, -, -, rfl⟩ := start_eq_ok_iff.mp hc'
  constructor
  · intro heq hr
    have hpaced := paced_afterFrames hn
    have hpaced' := paced_afterFrames hn'
    rw [hpaced.completed, hpaced'.completed] at heq
    exact Paced.agree_of_either ht hpaced hpaced' (Nat.add_left_cancel heq) hr
  · rintro fault count herror rfl hlt hr
    exact error_of_error rfl ht rfl hn hn' herror hlt (Nat.zero_add _).symm hr

/-! ### One program under two clocks -/

/-- A program that sets the sound timer and is not stopped before its fourth instruction. -/
def rings : Array UInt8 := #[0x61, 0x02, 0xF1, 0x18, 0xA0, 0x00, 0xFF, 0xFF]

theorem fits_rings : FitsProgramSpace rings := by decide

/-- The processor behind so many of these instructions, with the sound timer somewhere. -/
def ringer (s : Nat) (sound : UInt8) : Processor :=
  { Processor.loaded rings Processor.plainSetup with
    core := match s with
      | 0 => { Core.initial with sound }
      | s + 1 => { Core.initial.setReg 1 2 with pc := 0x202 + 2 * s, sound }
    completed := s }

theorem step_ringer (sound : UInt8) :
    (∃ decoded, (ringer 0 sound).step = (.completed decoded, ringer 1 sound)) ∧
    (∃ decoded, (ringer 1 sound).step = (.completed decoded, ringer 2 2)) ∧
    (∃ decoded, (ringer 2 sound).step = (.completed decoded, ringer 3 sound)) := by
  refine ⟨?_, ?_, ?_⟩
  · obtain ⟨i, hstep⟩ := Processor.step_of_image .loadImmediate (p := ringer 0 sound) (k := 0)
      fits_rings rfl rfl (by decide) rfl (by decide) rfl rfl rfl
    exact ⟨_, hstep⟩
  · obtain ⟨i, hstep⟩ := Processor.step_of_image .setSound (p := ringer 1 sound) (k := 2)
      fits_rings rfl rfl (by decide) rfl (by decide) rfl rfl rfl
    exact ⟨_, hstep⟩
  · obtain ⟨i, hstep⟩ := Processor.step_of_image .loadIndex (p := ringer 2 sound) (k := 4)
      fits_rings rfl rfl (by decide) rfl (by decide) rfl rfl rfl
    exact ⟨_, hstep⟩

theorem step_ringer_failed (sound : UInt8) :
    ∃ q, (ringer 3 sound).step = (.failed (.illegal 0xFFFF 0x206) none, q) := by
  have hopcode : (ringer 3 sound).opcode = 0xFFFF :=
    Processor.opcode_of_image fits_rings rfl (k := 6) rfl (by decide)
  have hf : (ringer 3 sound).Fetches :=
    Processor.fetches_of_image fits_rings rfl (k := 6) rfl (by decide)
  have hl : (ringer 3 sound).table.lookup (ringer 3 sound).opcode = none := by
    rw [hopcode]
    rfl
  have hstep := Processor.step_of_lookup_none rfl hf hl
  rw [hopcode] at hstep
  exact ⟨_, hstep⟩

theorem not_reading_ringer (sound : UInt8) :
    ¬ (ringer 0 sound).At .readDelay ∧ ¬ (ringer 1 sound).At .readDelay ∧
      ¬ (ringer 2 sound).At .readDelay := by
  refine ⟨fun hat => ?_, fun hat => ?_, fun hat => ?_⟩
  · have hload : (ringer 0 sound).At .loadImmediate :=
      Processor.at_of_image fits_rings rfl (k := 0) rfl (by decide) rfl (by decide)
    cases hat.eq hload
  · have hset : (ringer 1 sound).At .setSound :=
      Processor.at_of_image fits_rings rfl (k := 2) rfl (by decide) rfl (by decide)
    cases hat.eq hset
  · have hindex : (ringer 2 sound).At .loadIndex :=
      Processor.at_of_image fits_rings rfl (k := 4) rfl (by decide) rfl (by decide)
    cases hat.eq hindex

/-- A console that runs the program, an instruction in each frame. -/
def slowRings : Console := around (ringer 0 0) ⟨60, 60⟩ none

/-- A console that runs it with three instructions in each frame. -/
def fastRings : Console := around (ringer 0 0) ⟨180, 60⟩ none

theorem afterFrames_slowRings : (slowRings.afterFrames 3).processor = ringer 3 0 := by
  have hone : slowRings.clock.perFrame = 1 := by decide
  obtain ⟨⟨_, hfirst⟩, ⟨_, hsecond⟩, -⟩ := step_ringer 0
  obtain ⟨-, -, ⟨_, hthird⟩⟩ := step_ringer 1
  have h1 : (slowRings.afterFrames 1).processor = ringer 1 0 :=
    afterFrames_of_completes (m := 0) (by rw [hone]; exact .step hfirst (.refl _))
  have h2 : (slowRings.afterFrames 2).processor = ringer 2 1 :=
    afterFrames_of_completes (m := 1) (by rw [hone, h1]; exact .step hsecond (.refl _))
  exact afterFrames_of_completes (m := 2) (by rw [hone, h2]; exact .step hthird (.refl _))

theorem afterFrames_fastRings :
    (fastRings.afterFrames 1).processor = ringer 3 1 ∧
      fastRings.triedIn 1 = [ringer 0 0, ringer 1 0, ringer 2 2] := by
  have hthree : fastRings.clock.perFrame = 3 := by decide
  obtain ⟨⟨_, hfirst⟩, ⟨_, hsecond⟩, -⟩ := step_ringer 0
  obtain ⟨-, -, ⟨_, hthird⟩⟩ := step_ringer 2
  constructor
  · refine afterFrames_of_completes (m := 0) (q := ringer 3 2) ?_
    rw [hthree]
    exact .step hfirst (.step hsecond (.step hthird (.refl _)))
  · show [] ++ (ringer 0 0).tried fastRings.clock.perFrame = _
    rw [hthree, Processor.tried_succ_of_completed hfirst, Processor.tried_succ_of_completed hsecond,
      Processor.tried_succ_of_completed hthird]
    rfl

/--
The sound timers are apart after the same three instructions, but nothing else is, and the
fourth instruction fails alike.
-/
theorem clock_invisible_rings :
    (slowRings.afterFrames 3).processor.core.sound = 0 ∧
      (fastRings.afterFrames 1).processor.core.sound = 1 ∧
      (slowRings.afterFrames 3).processor.untimed = (fastRings.afterFrames 1).processor.untimed ∧
      (fastRings.afterFrames 1).runFrame.outcome = .error (.illegal 0xFFFF 0x206) := by
  have hslow := afterFrames_slowRings
  obtain ⟨hfast, htried⟩ := afterFrames_fastRings
  obtain ⟨q, hfailed⟩ := step_ringer_failed 0
  have hcut : (slowRings.afterFrames 3).CutAt 0 (.illegal 0xFFFF 0x206) q := by
    refine ⟨?_, ringer 3 0, none, ?_, hfailed⟩
    · rw [clock_afterFrames]
      decide
    · rw [hslow]
      exact .refl _
  obtain ⟨herror, -, hconsole⟩ := runFrame_of_cutAt hcut
  have hcompleted : (slowRings.afterFrames (3 + 1)).processor.completed = 3 := by
    rw [afterFrames, hconsole]
    exact Processor.completed_of_failed hfailed
  have hnot : ∀ r ∈ fastRings.triedIn 1, ¬ r.At .readDelay := by
    rw [htried]
    simp only [List.forall_mem_cons]
    exact ⟨(not_reading_ringer 0).1, (not_reading_ringer 0).2.1, (not_reading_ringer 2).2.2,
      List.forall_mem_nil _⟩
  obtain ⟨hagree, hfail⟩ := clock_invisible rfl
    (start_eq_ok_iff.mpr ⟨by decide, by decide, fits_rings, rfl⟩ :
      start rings Processor.plainSetup ⟨60, 60⟩ none = .ok slowRings)
    (start_eq_ok_iff.mpr ⟨by decide, by decide, fits_rings, rfl⟩ :
      start rings Processor.plainSetup ⟨180, 60⟩ none = .ok fastRings)
    (m := 3) (n := 1) (hslow ▸ rfl) (hfast ▸ rfl)
  refine ⟨?_, ?_, ?_, ?_⟩
  · rw [hslow]
    rfl
  · rw [hfast]
    rfl
  · refine hagree ?_ (.inr hnot)
    rw [hslow, hfast]
    rfl
  · refine (hfail _ 3 herror hcompleted ?_ (.inr ?_)).1
    · rw [hfast]
      decide
    · rw [triedIn, htried]
      rw [htried] at hnot
      exact hnot

end Console

end Chip8
