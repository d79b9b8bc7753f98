/-
How far a frame gets.

`Completes` says that so many steps in a row are completed.  A run completes all its steps
or stops at one that fails (`completes_or_cut`), and what it leaves is known in both cases
without looking at how it is computed: the state behind the completed steps, or what the
failing step makes of that state.  The processors just before these steps are `tried`.  So a
frame is either whole or cut at one of its steps (`CutAt`); only a whole one ticks and is
counted.

Frames that follow each other without a request in between are `afterFrames`.  Whatever they
make of a processor could have been reached by requests to the processor alone, so everything
that is known of reachable processors holds in the middle of a frame as well.
-/
import Chip8.Proofs.Requests

namespace Chip8

namespace Processor

/-- So many steps in a row, all of them completed. -/
inductive Completes : Nat → Processor → Processor → Prop
  | refl (p : Processor) : Completes 0 p p
  | step {count : Nat} {p q final : Processor} {decoded : Decoded}
      (h : p.step = (.completed decoded, q)) (rest : Completes count q final) :
      Completes (count + 1) p final

variable {p q final : Processor} {count k : Nat} {fault : Fault} {reached : Option Decoded}

/-- A run begins with steps that are completed, and goes on behind them. -/
theorem run_of_completes (h : Completes count p q) (more : Nat) :
    ∃ records : Array StepRecord, records.size = count ∧
      p.run (count + more) = { q.run more with records := records ++ (q.run more).records } := by
  induction h with
  | refl p => exact ⟨#[], rfl, by simp⟩
  | @step count p q final decoded h rest ih =>
      obtain ⟨records, hsize, hrun⟩ := ih
      refine ⟨#[⟨p.core, .completed decoded⟩] ++ records, ?_, ?_⟩
      · rw [Array.size_append, hsize, Nat.add_comm]
        rfl
      · rw [Nat.add_right_comm, run_succ_of_completed h, hrun, Array.append_assoc]

theorem Completes.reachable {setup : Setup} (h : Completes count p q) (hp : Reachable setup p) :
    Reachable setup q := by
  induction h with
  | refl => exact hp
  | step hstep _ ih =>
      have hserve := hp.serve .step
      rw [serve_step, hstep] at hserve
      exact ih hserve

theorem completed_of_step {decoded : Decoded} (h : p.step = (.completed decoded, q)) :
    q.completed = p.completed + 1 := by
  obtain ⟨-, hs⟩ := steps_of_completed h
  cases hs with
  | completed => rfl

theorem halted_of_completed {decoded : Decoded} (h : p.step = (.completed decoded, q)) :
    q.halted = false := by
  obtain ⟨hn, hs⟩ := steps_of_completed h
  cases hs with
  | completed hf hl hr hp => exact (alike_of_perform hp).halted.trans hn

theorem completed_of_failed (h : p.step = (.failed fault reached, q)) :
    q.completed = p.completed := by
  cases hn : p.halted with
  | true =>
      rw [step_of_halted hn] at h
      cases h
      rfl
  | false =>
      have hs := (step_iff hn).mp h
      cases hs with
      | unfetched | illegal | unknown => rfl
      | cut hf hl hr hc => exact (alike_of_perform (perform_of_cutShort hc)).completed

theorem Completes.completed (h : Completes count p q) : q.completed = p.completed + count := by
  induction h with
  | refl p => rfl
  | step hstep _ ih => rw [ih, completed_of_step hstep, Nat.add_right_comm, Nat.add_assoc]

/-- What a run leaves if all its steps are completed. -/
theorem run_completes (h : Completes count p q) :
    (p.run count).fault = none ∧ (p.run count).processor = q ∧
      (p.run count).records.size = count := by
  obtain ⟨records, hsize, hrun⟩ := run_of_completes h 0
  rw [Nat.add_zero] at hrun
  rw [hrun, run_zero]
  exact ⟨rfl, rfl, hsize⟩

/-- What a run leaves if a step fails. -/
theorem run_cut (h : Completes k p q) (hstep : q.step = (.failed fault reached, final))
    (hk : k < count) :
    (p.run count).fault = some fault ∧ (p.run count).processor = final ∧
      (p.run count).records.size = k + 1 := by
  obtain ⟨more, rfl⟩ : ∃ more, count = k + (more + 1) := ⟨count - k - 1, by omega⟩
  obtain ⟨records, hsize, hrun⟩ := run_of_completes h (more + 1)
  rw [hrun, run_succ_of_failed hstep]
  refine ⟨rfl, rfl, ?_⟩
  rw [Array.size_append, hsize]
  rfl

/-- **Steps in a row are all completed, or one of them fails behind some that are.** -/
theorem completes_or_cut (count : Nat) (p : Processor) :
    (∃ q, Completes count p q) ∨
      ∃ k < count, ∃ q fault reached final,
        Completes k p q ∧ q.step = (.failed fault reached, final) := by
  induction count generalizing p with
  | zero => exact .inl ⟨p, .refl p⟩
  | succ count ih =>
      cases hstep : p.step with
      | mk outcome next =>
          cases outcome with
          | failed fault reached =>
              -- The cut is at the very first step, behind none.
              exact .inr ⟨0, Nat.succ_pos count, p, fault, reached, next, .refl p, hstep⟩
          | completed decoded =>
              rcases ih next with ⟨q, hq⟩ | ⟨k, hk, q, fault, reached, final, hq, hfail⟩
              · exact .inl ⟨q, .step hstep hq⟩
              · exact .inr ⟨k + 1, Nat.succ_lt_succ hk, q, fault, reached, final,
                  .step hstep hq, hfail⟩

/-! ### The steps that are tried -/

/-- The processors just before so many steps, up to the first step that fails. -/
def tried : Nat → Processor → List Processor
  | 0, _ => []
  | count + 1, p =>
    p :: match p.step with
      | (.completed _, q) => tried count q
      | (.failed _ _, _) => []

theorem tried_succ_of_completed {decoded : Decoded} (h : p.step = (.completed decoded, q))
    (count : Nat) : p.tried (count + 1) = p :: q.tried count := by
  rw [tried, h]

theorem tried_succ_of_failed (h : p.step = (.failed fault reached, q)) (count : Nat) :
    p.tried (count + 1) = [p] := by
  rw [tried, h]

theorem Completes.tried_add (h : Completes k p q) (more : Nat) :
    p.tried (k + more) = p.tried k ++ q.tried more := by
  induction h with
  | refl p => rw [Nat.zero_add, tried, List.nil_append]
  | step hstep _ ih =>
      rw [Nat.add_right_comm, tried_succ_of_completed hstep, tried_succ_of_completed hstep, ih,
        List.cons_append]

/-- Along a sequence in which every step is completed, its members are tried one after another. -/
theorem tried_of_steps (f : Nat → Processor) {k : Nat}
    (h : ∀ i < k, ∃ decoded, (f i).step = (.completed decoded, f (i + 1))) (more : Nat) :
    (f 0).tried (k + more) = (List.range k).map f ++ (f k).tried more := by
  induction k generalizing more with
  | zero => rw [Nat.zero_add, List.range_zero, List.map_nil, List.nil_append]
  | succ k ih =>
      obtain ⟨_, hstep⟩ := h k (Nat.lt_succ_self k)
      have hbefore := ih (fun i hi => h i (Nat.lt_succ_of_lt hi)) (more + 1)
      rw [Nat.add_assoc, Nat.add_comm 1 more, hbefore, tried_succ_of_completed hstep,
        List.range_succ, List.map_append, List.map_singleton, List.append_assoc,
        List.singleton_append]

theorem Completes.length_tried (h : Completes k p q) : (p.tried k).length = k := by
  induction h with
  | refl p => rfl
  | step hstep _ ih => rw [tried_succ_of_completed hstep, List.length_cons, ih]

theorem Completes.of_mem_tried {r : Processor} (h : Completes k p q) (hr : r ∈ p.tried k) :
    ∃ decoded, r.step.1 = .completed decoded := by
  induction h with
  | refl p => cases hr
  | @step k p next q decoded hstep _ ih =>
      rw [tried_succ_of_completed hstep] at hr
      rcases List.mem_cons.mp hr with rfl | hr
      · exact ⟨decoded, by rw [hstep]⟩
      · exact ih hr

/-- A step is tried behind others that are completed. -/
theorem completes_of_tried {before rest : List Processor}
    (h : p.tried count = before ++ q :: rest) :
    Completes before.length p q ∧ p.tried before.length = before := by
  induction before generalizing p count with
  | nil =>
      cases count with
      | zero => cases h
      | succ count =>
          obtain rfl : p = q := (List.cons.inj h).1
          exact ⟨.refl p, rfl⟩
  | cons first before ih =>
      cases count with
      | zero => cases h
      | succ count =>
          rcases hstep : p.step with ⟨decoded | ⟨fault, reached⟩, next⟩
          · rw [tried_succ_of_completed hstep] at h
            obtain ⟨rfl, htail⟩ := List.cons.inj h
            obtain ⟨hcompletes, htried⟩ := ih htail
            refine ⟨.step hstep hcompletes, ?_⟩
            rw [List.length_cons, tried_succ_of_completed hstep, htried]
          · -- Nothing is tried behind a step that fails.
            rw [tried_succ_of_failed hstep] at h
            cases before with
            | nil | cons => cases (List.cons.inj h).2

end Processor

namespace Console

open Processor (Completes)

/--
Whether a frame is cut behind so many completed steps by a step that fails, and what that
step leaves.
-/
def CutAt (c : Console) (k : Nat) (fault : Fault) (final : Processor) : Prop :=
  k < c.clock.perFrame ∧
    ∃ p reached, Completes k c.processor p ∧ p.step = (.failed fault reached, final)

variable {c : Console} {k : Nat} {fault : Fault} {q : Processor}

/-- A frame that is cut leaves the clock, the notes and the timers alone. -/
theorem runFrame_of_cutAt (h : c.CutAt k fault q) :
    c.runFrame.outcome = .error fault ∧ c.runFrame.records.size = k + 1 ∧
      c.runFrame.console
        = { c with processor := q, history := c.recorded c.runFrame.records } := by
  obtain ⟨hk, p, reached, hp, hstep⟩ := h
  obtain ⟨hfault, hprocessor, hsize⟩ := Processor.run_cut hp hstep hk
  rw [runFrame, hfault, hprocessor]
  exact ⟨rfl, hsize, rfl⟩

theorem runFrame_of_completes (h : Completes c.clock.perFrame c.processor q) :
    c.runFrame.outcome = .ok c.clock.perFrame ∧
      c.runFrame.console
        = { c with
            processor := q.tick
            history := c.recorded c.runFrame.records
            frames := c.frames + 1
            sounding := q.sounding } := by
  obtain ⟨hfault, hprocessor, hsize⟩ := Processor.run_completes h
  rw [runFrame, hfault, hprocessor, hsize]
  exact ⟨rfl, rfl⟩

/-- A frame fails exactly if it is cut somewhere. -/
theorem runFrame_error_iff :
    c.runFrame.outcome = .error fault ↔ ∃ k q, c.CutAt k fault q := by
  constructor
  · intro h
    rcases Processor.completes_or_cut c.clock.perFrame c.processor with
      ⟨q, hq⟩ | ⟨k, hk, p, fault', reached, q, hp, hstep⟩
    · rw [(runFrame_of_completes hq).1] at h
      cases h
    · have hcut : c.CutAt k fault' q := ⟨hk, p, reached, hp, hstep⟩
      rw [(runFrame_of_cutAt hcut).1] at h
      cases h
      exact ⟨k, q, hcut⟩
  · rintro ⟨k, q, hcut⟩
    exact (runFrame_of_cutAt hcut).1

/-! ### Frames that are not cut -/

/-- The processor after the instructions of a frame, before the tick. -/
def worked (c : Console) : Processor := (c.processor.run c.clock.perFrame).processor

/-- What a frame does that is not cut: it completes its share of instructions and ticks once. -/
structure Whole (c : Console) : Prop where
  outcome : c.runFrame.outcome = .ok c.clock.perFrame
  records : c.runFrame.records.size = c.clock.perFrame
  completes : Completes c.clock.perFrame c.processor c.worked
  ticks : c.runFrame.console.processor = c.worked.tick
  completed : c.runFrame.console.processor.completed = c.processor.completed + c.clock.perFrame
  frames : c.runFrame.console.frames = c.frames + 1
  sounding : c.runFrame.console.sounding = c.worked.sounding

theorem whole_of_ok {n : Nat} (h : c.runFrame.outcome = .ok n) : c.Whole := by
  rcases Processor.completes_or_cut c.clock.perFrame c.processor with
    ⟨q, hq⟩ | ⟨k, hk, p, fault, reached, q, hp, hstep⟩
  · obtain ⟨houtcome, hconsole⟩ := runFrame_of_completes hq
    obtain ⟨hfault, hworked, hsize⟩ := Processor.run_completes hq
    obtain rfl : c.worked = q := hworked
    constructor
    · exact houtcome
    · rw [runFrame, hfault]
      exact hsize
    · exact hq
    · rw [hconsole]
    · rw [hconsole]
      exact hq.completed
    · rw [hconsole]
    · rw [hconsole]
  · rw [(runFrame_of_cutAt ⟨hk, p, reached, hp, hstep⟩).1] at h
    cases h

/-! ### What a console can be brought to -/

theorem start_eq_ok_iff {image : Array UInt8} {setup : Processor.Setup} {clock : Clock}
    {history : Option History} :
    start image setup clock history = .ok c ↔
      0 ≤ clock.speed ∧ 0 < clock.frameRate ∧ FitsProgramSpace image ∧
        c = around (Processor.loaded image setup) clock history := by
  unfold start Processor.start
  by_cases hspeed : clock.speed < 0
  · rw [if_pos hspeed]
    constructor
    · intro h
      cases h
    · intro h
      omega
  by_cases hrate : clock.frameRate ≤ 0
  · rw [if_neg hspeed, if_pos hrate]
    constructor
    · intro h
      cases h
    · intro h
      omega
  rw [if_neg hspeed, if_neg hrate]
  by_cases hfit : FitsProgramSpace image
  · rw [if_pos hfit, Except.ok.injEq]
    constructor
    · intro h
      exact ⟨by omega, by omega, hfit, h.symm⟩
    · intro h
      exact h.2.2.2.symm
  · rw [if_neg hfit]
    constructor
    · intro h
      cases h
    · intro h
      exact absurd h.2.2.1 hfit

variable {setup : Processor.Setup}

theorem reachable_runFrame (h : Processor.Reachable setup c.processor) :
    Processor.Reachable setup c.runFrame.console.processor := by
  rcases Processor.completes_or_cut c.clock.perFrame c.processor with
    ⟨q, hq⟩ | ⟨k, hk, p, fault, reached, q, hp, hstep⟩
  · rw [(runFrame_of_completes hq).2]
    exact (hq.reachable h).serve .tick
  · have hserve := (hp.reachable h).serve .step
    rw [Processor.serve_step, hstep] at hserve
    rw [(runFrame_of_cutAt ⟨hk, p, reached, hp, hstep⟩).2.2]
    exact hserve

theorem reachable_serve (h : Processor.Reachable setup c.processor) (request : Request) :
    Processor.Reachable setup (c.serve request).processor := by
  cases request with
  | frame => exact reachable_runFrame h
  | ask request => exact h.serve request
  | retime clock _ => exact h

theorem reachable_serveEach (h : Processor.Reachable setup c.processor)
    (requests : List Request) :
    Processor.Reachable setup (c.serveEach requests).processor := by
  induction requests generalizing c with
  | nil => exact h
  | cons request rest ih => exact ih (reachable_serve h request)

/-! ### Frames in a row -/

/-- The console after so many frames. -/
def afterFrames (c : Console) : Nat → Console
  | 0 => c
  | count + 1 => (c.afterFrames count).runFrame.console

theorem afterFrames_add (c : Console) (m n : Nat) :
    c.afterFrames (m + n) = (c.afterFrames m).afterFrames n := by
  induction n with
  | zero => rfl
  | succ n ih => rw [Nat.add_succ, afterFrames, afterFrames, ih]

/-- The processors just before the steps that so many frames try. -/
def triedIn (c : Console) : Nat → List Processor
  | 0 => []
  | count + 1 => c.triedIn count ++ (c.afterFrames count).processor.tried c.clock.perFrame

theorem clock_runFrame (c : Console) : c.runFrame.console.clock = c.clock := by
  rw [runFrame]
  cases (c.processor.run c.clock.perFrame).fault with
  | none => rfl
  | some fault => rfl

theorem clock_afterFrames (c : Console) (count : Nat) : (c.afterFrames count).clock = c.clock := by
  induction count with
  | zero => rfl
  | succ count ih => rw [afterFrames, clock_runFrame, ih]

theorem afterFrames_of_completes {m : Nat}
    (h : Completes c.clock.perFrame (c.afterFrames m).processor q) :
    (c.afterFrames (m + 1)).processor = q.tick := by
  rw [← clock_afterFrames c m] at h
  rw [afterFrames, (runFrame_of_completes h).2]

theorem reachable_afterFrames (h : Processor.Reachable setup c.processor) (count : Nat) :
    Processor.Reachable setup (c.afterFrames count).processor := by
  induction count with
  | zero => exact h
  | succ count ih => exact reachable_runFrame ih

end Console

end Chip8
