/-
How frames keep time.

A frame that is not cut carries out its share of instructions and then ticks once.  Only one
instruction sets a timer, so where that one is missing the timer is the same before and after
the instructions of a frame (`read_worked`) and counts down by one from frame to frame
(`read_afterFrames`).

What a program hears or reads of a timer lies between the instructions and the tick of some
frame.  A timer that some frame leaves at `n` just before its tick is therefore at `n - j`
just before the tick of the `j`-th frame behind it, and a tone is due in `n` frames, that
frame included.
-/
import Chip8.Proofs.Footprint
import Chip8.Proofs.Frame

namespace Chip8

namespace Core

theorem toNat_pos {timer : UInt8} (h : timer ≠ 0) : 0 < timer.toNat :=
  UInt8.lt_iff_toNat_lt.mp (UInt8.pos_iff_ne_zero.mpr h)

theorem toNat_countDown (timer : UInt8) : (countDown timer).toNat = timer.toNat - 1 := by
  unfold countDown
  by_cases h : timer = 0
  · simp [h]
  · have hle : 1 ≤ timer := UInt8.le_iff_toNat_le.mpr (toNat_pos h)
    rw [if_neg h, UInt8.toNat_sub_of_le _ _ hle]
    rfl

end Core

/-- The timers of a core. -/
inductive Timer where
  | delay
  | sound

namespace Timer

/-- What a timer shows. -/
def read : Timer → Core → Nat
  | delay, c => c.delay.toNat
  | sound, c => c.sound.toNat

/-- The operation that sets a timer. -/
def setter : Timer → Operation
  | delay => .setDelay
  | sound => .setSound

theorem read_tick (t : Timer) (c : Core) : t.read c.tick = t.read c - 1 := by
  cases t with
  | delay => exact Core.toNat_countDown c.delay
  | sound => exact Core.toNat_countDown c.sound

theorem read_of_framed {c c' : Core} {op : Operation} {x : Fin 16} (t : Timer)
    (h : c.Framed op x c') (hop : op ≠ t.setter) : t.read c' = t.read c := by
  cases t with
  | delay => exact congrArg UInt8.toNat (h.delay hop)
  | sound => exact congrArg UInt8.toNat (h.sound hop)

end Timer

namespace Processor

variable {p q : Processor} {setup : Setup} {count : Nat} {t : Timer}

theorem Bounded.read_step (h : p.Bounded) (ht : p.table = .standard) {decoded : Decoded}
    (hd : p.step.1 = .completed decoded) (hset : ¬ p.At t.setter) :
    t.read p.step.2.core = t.read p.core := by
  obtain ⟨-, op, hat, hframed, -⟩ := h.framed_of_completed ht hd
  refine t.read_of_framed hframed.core ?_
  rintro rfl
  exact hset hat

/-- Steps that do not set a timer leave it alone. -/
theorem Completes.read (h : Completes count p q) (hp : Reachable setup p)
    (ht : setup.table = .standard) (hset : ∀ r ∈ p.tried count, ¬ r.At t.setter) :
    t.read q.core = t.read p.core := by
  induction h with
  | refl p => rfl
  | @step count p next q decoded hstep rest ih =>
      rw [tried_succ_of_completed hstep, List.forall_mem_cons] at hset
      have hnext : Reachable setup next := (Completes.step hstep (.refl next)).reachable hp
      have hread := hp.bounded.read_step (hp.table.trans ht) (by rw [hstep]) hset.1
      rw [hstep] at hread
      rw [ih hnext hset.2, hread]

theorem sounding_eq (p : Processor) : p.sounding = decide (0 < p.core.sound.toNat) := by
  unfold sounding
  by_cases h : p.core.sound = 0
  · simp [h]
  · simp [h, Core.toNat_pos h]

/-- An instruction that reads the delay timer reads what the timer shows. -/
theorem reg_of_readDelay (ht : p.table = .standard) (hn : p.halted = false)
    (hat : p.At .readDelay) : p.step.2.core.reg p.opcode.x = p.core.delay := by
  obtain ⟨i, hstep⟩ := step_of_at ht hn hat rfl
  rw [hstep]
  show (Core.setReg _ _ _).reg _ = _
  rw [Core.reg_setReg, if_pos rfl]
  rfl

end Processor

namespace Console

open Processor (Completes)

variable {c : Console} {setup : Processor.Setup} {count : Nat} {t : Timer}

/-! ### Frames in a row, none of them cut -/

/-- Whether none of so many frames is cut. -/
def Unbroken (c : Console) (count : Nat) : Prop :=
  ∀ t < count, ∃ n, (c.afterFrames t).runFrame.outcome = .ok n

theorem Unbroken.whole (h : c.Unbroken count) {s : Nat} (hs : s < count) :
    (c.afterFrames s).Whole := by
  obtain ⟨n, hn⟩ := h s hs
  exact whole_of_ok hn

theorem Unbroken.after (h : c.Unbroken count) {s more : Nat} (hs : s + more ≤ count) :
    (c.afterFrames s).Unbroken more := by
  intro i hi
  rw [← afterFrames_add]
  exact h (s + i) (by omega)

/-! ### Timers from frame to frame -/

section

variable (hp : Processor.Reachable setup c.processor) (ht : setup.table = .standard)

include hp ht

theorem Whole.read_worked (h : c.Whole)
    (hset : ∀ r ∈ c.processor.tried c.clock.perFrame, ¬ r.At t.setter) :
    t.read c.worked.core = t.read c.processor.core :=
  h.completes.read hp ht hset

/-- **A timer that no instruction sets counts down by one in each frame.** -/
theorem read_afterFrames (h : c.Unbroken count) (hset : ∀ r ∈ c.triedIn count, ¬ r.At t.setter) :
    t.read (c.afterFrames count).processor.core = t.read c.processor.core - count := by
  induction count with
  | zero => rfl
  | succ count ih =>
      rw [triedIn, List.forall_mem_append] at hset
      have hwhole := h.whole (Nat.lt_succ_self count)
      have hread := hwhole.read_worked (reachable_afterFrames hp count) ht
        (by rw [clock_afterFrames]; exact hset.2)
      have hih := ih (h.after (s := 0) (by omega)) hset.1
      rw [afterFrames, hwhole.ticks]
      show t.read (Core.tick _) = _
      rw [Timer.read_tick, hread, hih, Nat.sub_sub]

/-! ### What a program hears and reads -/

/-- A timer that a frame leaves at a number is lower by so many frames. -/
theorem read_of_unbroken {s j : Nat} (h : c.Unbroken count) (hs : s + j < count)
    (hset : ∀ r ∈ (c.afterFrames (s + 1)).triedIn j, ¬ r.At t.setter) :
    t.read (c.afterFrames (s + 1 + j)).processor.core
      = t.read (c.afterFrames s).worked.core - (j + 1) := by
  have hafter := reachable_afterFrames hp (s + 1)
  have hticks := (h.whole (show s < count by omega)).ticks
  rw [afterFrames_add, read_afterFrames hafter ht (h.after (by omega)) hset, afterFrames, hticks]
  show t.read (Core.tick _) - j = _
  rw [Timer.read_tick, Nat.sub_sub, Nat.add_comm]

/-- The tone is due after a frame if the sound timer was not yet at zero just before its tick. -/
theorem sounding_of_unbroken {s j : Nat} (h : c.Unbroken count) (hs : s + j < count)
    (hset : ∀ r ∈ (c.afterFrames (s + 1)).triedIn j, ¬ r.At .setSound) :
    (c.afterFrames (s + j + 1)).sounding
      = decide (j < (c.afterFrames s).worked.core.sound.toNat) := by
  have hwhole := h.whole hs
  rw [afterFrames, hwhole.sounding, Processor.sounding_eq, decide_eq_decide]
  cases j with
  | zero => rfl
  | succ j =>
      rw [show s + (j + 1) = s + 1 + j by omega] at hwhole ⊢
      rw [triedIn, ← afterFrames_add, clock_afterFrames, List.forall_mem_append] at hset
      obtain ⟨hbefore, hlast⟩ := hset
      have hread := read_of_unbroken (t := .sound) hp ht h (by omega) hbefore
      have hworked := hwhole.read_worked (t := .sound) (reachable_afterFrames hp _) ht
        (by rwa [clock_afterFrames])
      rw [hread] at hworked
      change (c.afterFrames (s + 1 + j)).worked.core.sound.toNat = _ at hworked
      rw [hworked]
      show 0 < (c.afterFrames s).worked.core.sound.toNat - (j + 1) ↔ _
      omega

/-- An instruction of a later frame reads what the frames in between have left. -/
theorem reg_of_unbroken {s j : Nat} {p : Processor} {before rest : List Processor}
    (h : c.Unbroken count) (hs : s + (j + 1) < count)
    (htried : (c.afterFrames (s + 1 + j)).processor.tried c.clock.perFrame = before ++ p :: rest)
    (hset : ∀ r ∈ (c.afterFrames (s + 1)).triedIn j ++ before, ¬ r.At .setDelay)
    (hat : p.At .readDelay) :
    (p.step.2.core.reg p.opcode.x).toNat
      = (c.afterFrames s).worked.core.delay.toNat - (j + 1) := by
  rw [List.forall_mem_append] at hset
  obtain ⟨hframes, hbefore⟩ := hset
  have hreach := reachable_afterFrames hp (s + 1 + j)
  obtain ⟨hcompletes, htake⟩ := Processor.completes_of_tried htried
  -- The frame it belongs to is completed, so this instruction is.
  have hwhole := h.whole (show s + 1 + j < count by omega)
  have hmem : p ∈ (c.afterFrames (s + 1 + j)).processor.tried
      (c.afterFrames (s + 1 + j)).clock.perFrame := by
    rw [clock_afterFrames, htried]
    simp
  obtain ⟨decoded, hd⟩ := hwhole.completes.of_mem_tried hmem
  have htable : p.table = .standard := (hcompletes.reachable hreach).table.trans ht
  rw [Processor.reg_of_readDelay htable (Processor.running_of_completed hd) hat]
  have hread := hcompletes.read (t := .delay) hreach ht (by rwa [htake])
  have hstart := read_of_unbroken (t := .delay) hp ht h (by omega) hframes
  exact hread.trans hstart

end

/--
**Frames keep time.**  A frame that is not cut completes exactly the instructions that fall to
it and ticks once behind them.  A sound timer that a frame leaves at `n` before its tick makes
the tone due in `n` frames, the first of them included; and a delay timer that a frame leaves
at `n` is read as `n - j` in the `j`-th frame behind it.  Both are meant until the timer is
set again.
-/
theorem frames_keep_time {image : Array UInt8} {clock : Clock} {history : Option History}
    {console : Console} (ht : setup.table = .standard)
    (hc : start image setup clock history = .ok console) (requests : List Request)
    (hafter : console.serveEach requests = c) (hclock : c.clock = clock)
    (h : c.Unbroken count) :
    (c.clock.perFrame : Int) = clock.speed.fdiv clock.frameRate ∧
    (∀ s < count, (c.afterFrames s).Whole ∧ (c.afterFrames s).clock = clock) ∧
    (∀ s j, s + j < count → (∀ r ∈ (c.afterFrames (s + 1)).triedIn j, ¬ r.At .setSound) →
      (c.afterFrames (s + j + 1)).sounding
        = decide (j < (c.afterFrames s).worked.core.sound.toNat) ∧
      (c.afterFrames (s + j + 1)).processor.core.sound.toNat
        = (c.afterFrames s).worked.core.sound.toNat - 1 - j) ∧
    ∀ s j p before rest, s + (j + 1) < count →
      (c.afterFrames (s + 1 + j)).processor.tried c.clock.perFrame = before ++ p :: rest →
      (∀ r ∈ (c.afterFrames (s + 1)).triedIn j ++ before, ¬ r.At .setDelay) →
      p.At .readDelay →
      (p.step.2.core.reg p.opcode.x).toNat
        = (c.afterFrames s).worked.core.delay.toNat - (j + 1) := by
  obtain ⟨hspeed, hrate, hfit, rfl⟩ := start_eq_ok_iff.mp hc
  have hp : Processor.Reachable setup c.processor := by
    rw [← hafter]
    exact reachable_serveEach (Processor.reachable_loaded hfit) requests
  refine ⟨?_, ?_, ?_, ?_⟩
  · rw [hclock]
    exact Int.toNat_of_nonneg (Int.fdiv_nonneg hspeed (Int.le_of_lt hrate))
  · intro s hs
    exact ⟨h.whole hs, (clock_afterFrames c s).trans hclock⟩
  · intro s j hs hset
    refine ⟨sounding_of_unbroken hp ht h hs hset, ?_⟩
    have hread := read_of_unbroken (t := .sound) hp ht h hs hset
    rw [show s + 1 + j = s + j + 1 by omega] at hread
    refine hread.trans ?_
    rw [Nat.sub_sub, Nat.add_comm]
    rfl
  · intro s j p before rest hs htried hset hat
    exact reg_of_unbroken hp ht h hs htried hset hat

/-! ### A tone and a wait -/

/-- A program that sets the sound timer, then the delay timer, and reads the delay timer. -/
def chirps : Array UInt8 := #[0x61, 0x02, 0xF1, 0x18, 0xF1, 0x15, 0xF2, 0x07]

theorem fits_chirps : FitsProgramSpace chirps := by decide

/-- The processor behind each instruction, if a frame has room for one. -/
def chirped (s : Nat) : Processor :=
  let c := Core.initial.setReg 1 2
  { Processor.loaded chirps Processor.plainSetup with
    core := match s with
      | 0 => { c with pc := 0x202 }
      | 1 => { c with pc := 0x204, sound := 2 }
      | 2 => { c with pc := 0x206, delay := 2, sound := 1 }
      | _ => { c.setReg 2 1 with pc := 0x208, delay := 1 }
    completed := s + 1 }

/-- The processor before each frame. -/
def chirper : Nat → Processor
  | 0 => Processor.loaded chirps Processor.plainSetup
  | s + 1 => (chirped s).tick

/-- A console that runs the program, an instruction in each frame. -/
def chirpConsole : Console := around (chirper 0) ⟨60, 60⟩ none

theorem step_chirper {s : Nat} (hs : s < 4) :
    ∃ decoded, (chirper s).step = (.completed decoded, chirped s) := by
  obtain rfl | rfl | rfl | rfl : s = 0 ∨ s = 1 ∨ s = 2 ∨ s = 3 := by omega
  · obtain ⟨i, hstep⟩ := Processor.step_of_image .loadImmediate (p := chirper 0) (k := 0)
      fits_chirps rfl rfl (by decide) rfl (by decide) rfl rfl rfl
    exact ⟨_, hstep⟩
  · obtain ⟨i, hstep⟩ := Processor.step_of_image .setSound (p := chirper 1) (k := 2)
      fits_chirps rfl rfl (by decide) rfl (by decide) rfl rfl rfl
    exact ⟨_, hstep⟩
  · obtain ⟨i, hstep⟩ := Processor.step_of_image .setDelay (p := chirper 2) (k := 4)
      fits_chirps rfl rfl (by decide) rfl (by decide) rfl rfl rfl
    exact ⟨_, hstep⟩
  · obtain ⟨i, hstep⟩ := Processor.step_of_image .readDelay (p := chirper 3) (k := 6)
      fits_chirps rfl rfl (by decide) rfl (by decide) rfl rfl rfl
    exact ⟨_, hstep⟩

theorem worked_of_step {q : Processor} {decoded : Decoded} (h : c.clock.perFrame = 1)
    (hstep : c.processor.step = (.completed decoded, q)) : c.Whole ∧ c.worked = q := by
  have hcompletes : Completes c.clock.perFrame c.processor q := by
    rw [h]
    exact .step hstep (.refl q)
  exact ⟨whole_of_ok (runFrame_of_completes hcompletes).1, (Processor.run_completes hcompletes).2.1⟩

theorem frame_chirpConsole {s : Nat} (hs : s < 4) :
    (chirpConsole.afterFrames s).processor = chirper s ∧ (chirpConsole.afterFrames s).Whole ∧
      (chirpConsole.afterFrames s).worked = chirped s := by
  have hframe : ∀ s < 4, (chirpConsole.afterFrames s).processor = chirper s →
      (chirpConsole.afterFrames s).Whole ∧ (chirpConsole.afterFrames s).worked = chirped s := by
    intro s hs hprocessor
    obtain ⟨decoded, hstep⟩ := step_chirper hs
    rw [← hprocessor] at hstep
    exact worked_of_step (by rw [clock_afterFrames]; decide) hstep
  induction s with
  | zero => exact ⟨rfl, hframe 0 hs rfl⟩
  | succ s ih =>
      obtain ⟨-, hwhole, hworked⟩ := ih (by omega)
      have hprocessor : (chirpConsole.afterFrames (s + 1)).processor = chirper (s + 1) := by
        rw [afterFrames, hwhole.ticks, hworked]
        rfl
      exact ⟨hprocessor, hframe _ hs hprocessor⟩

theorem tried_chirpConsole {s : Nat} (hs : s < 4) :
    (chirpConsole.afterFrames s).processor.tried chirpConsole.clock.perFrame = [chirper s] := by
  have hone : chirpConsole.clock.perFrame = 1 := by decide
  obtain ⟨decoded, hstep⟩ := step_chirper hs
  rw [(frame_chirpConsole hs).1, hone, Processor.tried_succ_of_completed hstep, Processor.tried]

/-- The tone is due in two frames, and a wait of two frames is over after one more. -/
theorem frames_keep_time_chirpConsole :
    (chirpConsole.afterFrames 2).sounding = true ∧ (chirpConsole.afterFrames 3).sounding = true ∧
      (chirpConsole.afterFrames 4).sounding = false ∧
      ((chirper 3).step.2.core.reg 2).toNat = 1 := by
  have hset : (chirper 2).At .setDelay :=
    Processor.at_of_image fits_chirps rfl (k := 4) rfl (by decide) rfl (by decide)
  have hread : (chirper 3).At .readDelay :=
    Processor.at_of_image fits_chirps rfl (k := 6) rfl (by decide) rfl (by decide)
  have hopcode : (chirper 3).opcode = 0xF207 :=
    Processor.opcode_of_image fits_chirps rfl (k := 6) rfl (by decide)
  have hstart : start chirps Processor.plainSetup ⟨60, 60⟩ none = .ok chirpConsole :=
    start_eq_ok_iff.mpr ⟨by decide, by decide, fits_chirps, rfl⟩
  have hunbroken : chirpConsole.Unbroken 4 := by
    intro s hs
    exact ⟨_, (frame_chirpConsole hs).2.1.outcome⟩
  obtain ⟨-, -, hsound, hdelay⟩ :=
    frames_keep_time rfl hstart [] (serveEach_nil chirpConsole) rfl hunbroken
  have hone : (chirpConsole.afterFrames 1).worked.core.sound.toNat = 2 := by
    rw [(frame_chirpConsole (s := 1) (by decide)).2.2]
    rfl
  have htwo : (chirpConsole.afterFrames 2).worked.core.delay.toNat = 2 := by
    rw [(frame_chirpConsole (s := 2) (by decide)).2.2]
    rfl
  have hthird : (chirpConsole.afterFrames 2).triedIn 1 = [chirper 2] := by
    rw [triedIn, triedIn, List.nil_append, clock_afterFrames, ← afterFrames_add]
    exact tried_chirpConsole (s := 2) (by decide)
  have hfourth : (chirpConsole.afterFrames 2).triedIn 2 = [chirper 2] ++ [chirper 3] := by
    rw [triedIn, hthird, clock_afterFrames, ← afterFrames_add, tried_chirpConsole (by decide)]
  have hsilent : ∀ r ∈ [chirper 2] ++ [chirper 3], ¬ r.At .setSound := by
    simp only [List.forall_mem_append, List.forall_mem_singleton]
    exact ⟨fun hat => absurd (hat.eq hset) (by decide),
      fun hat => absurd (hat.eq hread) (by decide)⟩
  refine ⟨?_, ?_, ?_, ?_⟩
  · have h := (hsound 1 0 (by decide) (List.forall_mem_nil _)).1
    rw [hone] at h
    exact h
  · have hnone : ∀ r ∈ (chirpConsole.afterFrames 2).triedIn 1, ¬ r.At .setSound := by
      rw [hthird]
      exact (List.forall_mem_append.mp hsilent).1
    have h := (hsound 1 1 (by decide) hnone).1
    rw [hone] at h
    exact h
  · have hnone : ∀ r ∈ (chirpConsole.afterFrames 2).triedIn 2, ¬ r.At .setSound := by
      rw [hfourth]
      exact hsilent
    have h := (hsound 1 2 (by decide) hnone).1
    rw [hone] at h
    exact h
  · have h := hdelay 2 0 (chirper 3) [] [] (by decide) (tried_chirpConsole (by decide))
      (List.forall_mem_nil _) hread
    rw [hopcode, htwo] at h
    exact h

end Console

end Chip8
