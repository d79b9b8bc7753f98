/-
What a history shows.

Frames try one step after the other, up to the first that fails; `attempts` lists the
processors just before these steps, whatever is recorded of them.  The history of a console
is meant to show the newest of them: `Shows` says what an entry has to say about a step,
in terms of the processor before it alone, part by part (`Depicts`).

A step can change the memory its own instruction lies in, but its record keeps the opcode
that was fetched.  The fields that are cut to sixteen bits lose nothing, as every processor
that is met here is within bounds.
-/
import Chip8.Proofs.Stopped
import Chip8.Proofs.Tracing
import Mathlib.Data.List.DropRight
import Mathlib.Data.List.Forall2

namespace Chip8

namespace Processor

/-! ### Records of steps -/

/-- The record of the next step. -/
def record (p : Processor) : StepRecord := ⟨p.core, p.step.1⟩

variable {p q : Processor} {decoded : Decoded} {fault : Fault} {reached : Option Decoded}

/-- A run has one record for each step it tries. -/
theorem records_run (count : Nat) (p : Processor) :
    (p.run count).records.toList = (p.tried count).map record := by
  induction count generalizing p with
  | zero => rfl
  | succ count ih =>
      rcases hstep : p.step with ⟨decoded | ⟨fault, reached⟩, q⟩
      · rw [run_succ_of_completed hstep, tried_succ_of_completed hstep, List.map_cons, ← ih,
          Array.toList_append, record, hstep]
        rfl
      · rw [run_succ_of_failed hstep, tried_succ_of_failed hstep, List.map_singleton, record, hstep]

theorem Reachable.of_mem_tried {setup : Setup} {count : Nat} (h : Reachable setup p)
    (hq : q ∈ p.tried count) : Reachable setup q := by
  induction count generalizing p with
  | zero => cases hq
  | succ count ih =>
      have hserve := h.serve .step
      rw [serve_step] at hserve
      rcases hstep : p.step with ⟨decoded | ⟨fault, reached⟩, next⟩
      · rw [hstep] at hserve
        rw [tried_succ_of_completed hstep] at hq
        rcases List.mem_cons.mp hq with rfl | hq
        · exact h
        · exact ih hserve hq
      · rw [tried_succ_of_failed hstep, List.mem_singleton] at hq
        exact hq ▸ h

/-! ### Entries -/

/-- Whether a snapshot shows the core of a processor, every part of it in full. -/
structure Depicts (p : Processor) (s : Snapshot) : Prop where
  pc : s.pc = p.core.pc
  index : s.index = p.core.index
  delay : s.delay = p.core.delay.toNat
  sound : s.sound = p.core.sound.toNat
  /-- Of the call stack it shows how many calls are open. -/
  depth : s.depth = p.core.stack.length
  /-- All registers are there, in their order. -/
  registers : s.registers = List.ofFn p.core.reg

/-- What an entry has to say about a step, told from the processor just before it. -/
inductive Shows (p : Processor) : Entry → Prop
  /-- A completed step shows the word at the program counter and what the table calls it. -/
  | completed {decoded : Decoded} {i : Instruction} {s : Snapshot}
      (h : p.step.1 = .completed decoded) (hl : p.table.lookup p.opcode = some i)
      (hs : p.Depicts s) : Shows p ⟨s, some p.opcode, i.mnemonic, ""⟩
  /-- A step that failed, for whatever reason, shows neither. -/
  | failed {fault : Fault} {reached : Option Decoded} {s : Snapshot}
      (h : p.step.1 = .failed fault reached) (hs : p.Depicts s) : Shows p ⟨s, none, "", "fault"⟩

theorem Depicts.eq_mk {s : Snapshot} (h : p.Depicts s) :
    s = ⟨p.core.pc, p.core.index, p.core.delay.toNat, p.core.sound.toNat, p.core.stack.length,
      List.ofFn p.core.reg⟩ := by
  cases s
  simp only [Snapshot.mk.injEq]
  exact ⟨h.pc, h.index, h.delay, h.sound, h.depth, h.registers⟩

theorem depicts_snapshot (p : Processor) : p.Depicts p.core.snapshot where
  pc := rfl
  index := rfl
  delay := rfl
  sound := rfl
  depth := rfl
  registers := by
    show p.core.v.toList = List.ofFn p.core.reg
    refine List.ext_getElem (by simp) fun k hk hk' => ?_
    rw [Vector.getElem_toList, List.getElem_ofFn]
    rfl

/-- Program counter and index are short enough to be shown in full. -/
theorem Bounded.make_eq (h : p.Bounded) (opcode : Option Int) (mnemonic note : String) :
    Entry.make p.core.snapshot opcode mnemonic note
      = ⟨p.core.snapshot, opcode.map wrap16, mnemonic, note⟩ := by
  have hpc : wrap16 p.core.snapshot.pc = p.core.snapshot.pc :=
    wrap16_eq h.core.pc_nonneg (Int.le_trans h.core.pc_le (by decide))
  have hindex : wrap16 p.core.snapshot.index = p.core.snapshot.index :=
    wrap16_eq h.core.index_nonneg h.core.index_le
  rw [Entry.make, hpc, hindex]

theorem lookup_of_completed (hd : p.step.1 = .completed decoded) :
    decoded.opcode = p.opcode ∧ p.table.lookup p.opcode = some decoded.instruction := by
  obtain ⟨-, hs⟩ := steps_of_completed (Prod.ext hd rfl : p.step = (.completed decoded, p.step.2))
  generalize p.step.2 = q at hs
  cases hs with
  | completed hf hl hr hp => exact ⟨rfl, hl⟩

/-- **The entry of a step's record says what it has to say.** -/
theorem Bounded.shows_record (h : p.Bounded) : p.Shows (Entry.ofRecord p.record) := by
  rcases hs : p.step.1 with decoded | ⟨fault, reached⟩
  · obtain ⟨hopcode, hl⟩ := lookup_of_completed hs
    have hwrap : wrap16 p.opcode = p.opcode := opcode_emod p
    rw [Entry.ofRecord, record, hs]
    dsimp only
    rw [h.make_eq, hopcode, Option.map_some, hwrap]
    exact .completed hs hl p.depicts_snapshot
  · rw [Entry.ofRecord, record, hs]
    dsimp only
    rw [h.make_eq]
    exact .failed hs p.depicts_snapshot

end Processor

namespace History

/-- Read in the order of execution, a history ends in what was added, cut at the front. -/
theorem entries_append (h : History) (entries : List Entry) :
    (h.append entries).entries none = (h.entries none ++ entries).rtake h.capacity := by
  rw [List.rtake_eq_reverse_take_reverse, List.reverse_append]
  show ((entries.reverse ++ h.newest).take h.capacity).reverse = _
  rw [History.entries, List.reverse_reverse]

end History

namespace Console

variable {c : Console}

/-- The processors just before each step that frames try while requests are served. -/
def attempts (c : Console) : List Request → List Processor
  | [] => []
  | .frame :: rest => c.processor.tried c.clock.perFrame ++ (c.serve .frame).attempts rest
  | request :: rest => (c.serve request).attempts rest

/-- A frame hands over one record for each step it tries, cut short or not. -/
theorem records_runFrame (c : Console) :
    c.runFrame.records.toList = (c.processor.tried c.clock.perFrame).map Processor.record := by
  rw [← Processor.records_run, runFrame]
  cases (c.processor.run c.clock.perFrame).fault with
  | none => rfl
  | some fault => rfl

theorem history_runFrame (c : Console) :
    c.runFrame.console.history = c.recorded c.runFrame.records := by
  rw [runFrame]
  cases (c.processor.run c.clock.perFrame).fault with
  | none => rfl
  | some fault => rfl

/-- **Every step that a frame tries is recorded, and nothing else is.** -/
theorem history_serveEach (c : Console) (requests : List Request) :
    (c.serveEach requests).history = c.history.map fun h =>
      h.append ((c.attempts requests).map fun p => Entry.ofRecord p.record) := by
  induction requests generalizing c with
  | nil =>
      show c.history = c.history.map fun h => h.append []
      simp only [History.append_nil, Option.map_id']
  | cons request rest ih =>
      rw [serveEach_cons, ih]
      cases request with
      | frame =>
        rw [serve_frame, history_runFrame, recorded, records_runFrame, attempts, Option.map_map,
          List.map_map, List.map_append]
        refine congrArg (fun f => Option.map f c.history) (funext fun h => ?_)
        exact History.append_append h _ _
      | ask request => rfl
      | retime clock _ => rfl

theorem reachable_of_mem_attempts {setup : Processor.Setup} {p : Processor}
    {requests : List Request} (h : Processor.Reachable setup c.processor)
    (hp : p ∈ c.attempts requests) : Processor.Reachable setup p := by
  induction requests generalizing c with
  | nil => cases hp
  | cons request rest ih =>
      have hserve := reachable_serve h request
      cases request with
      | frame =>
        rw [attempts] at hp
        rcases List.mem_append.mp hp with hp | hp
        · exact h.of_mem_tried hp
        · exact ih hserve hp
      | ask request => exact ih hserve hp
      | retime clock _ => exact ih hserve hp

/--
**A history shows the newest steps that frames tried**, as many as its capacity, the oldest of
them first, and each of them as it was.  This holds whatever the host asks for, after frames that
were cut short and of a console that has stopped.
-/
theorem entries_faithful {image : Array UInt8} {setup : Processor.Setup} {clock : Clock}
    {capacity : Int} (hcapacity : 1 ≤ capacity)
    (hc : start image setup clock (History.ofCapacity? capacity) = .ok c)
    (requests : List Request) :
    ∃ history, (c.serveEach requests).history = some history ∧
      List.Forall₂ Processor.Shows ((c.attempts requests).rtake capacity.toNat)
        (history.entries none) := by
  have hempty : History.ofCapacity? capacity = some (History.empty capacity.toNat) :=
    if_neg (by omega)
  rw [hempty, start_eq_ok_iff] at hc
  obtain ⟨-, -, hfit, rfl⟩ := hc
  have hreach : Processor.Reachable setup (Processor.loaded image setup) :=
    Processor.reachable_loaded hfit
  refine ⟨_, history_serveEach _ requests, ?_⟩
  rw [History.entries_append]
  show List.Forall₂ _ _ (([] ++ List.map _ _).rtake capacity.toNat)
  rw [List.nil_append, List.rtake, List.rtake, List.length_map, ← List.map_drop,
    List.forall₂_map_right_iff, List.forall₂_same]
  intro p hp
  exact (reachable_of_mem_attempts hreach (List.mem_of_mem_drop hp)).bounded.shows_record

end Console

/-! ### A subroutine that is not there -/

namespace Processor

/-- A program that sets both timers and the index and calls where there is no instruction. -/
def errand : Array UInt8 :=
  #[0x60, 0x05, 0xF0, 0x15, 0x61, 0x07, 0xF1, 0x18, 0xA1, 0x23, 0x22, 0x0C, 0xFF, 0xFF]

theorem fits_errand : FitsProgramSpace errand := by decide

/-- The core behind so many of its instructions. -/
def errandCore (count : Nat) : Core :=
  let c := Core.initial.setReg 0 5
  let d := { c.setReg 1 7 with delay := 5 }
  match count with
  | 0 => Core.initial
  | 1 => { c with pc := 0x202 }
  | 2 => { c with pc := 0x204, delay := 5 }
  | 3 => { d with pc := 0x206 }
  | 4 => { d with pc := 0x208, sound := 7 }
  | 5 => { d with pc := 0x20A, sound := 7, index := 0x123 }
  | _ => { d with pc := 0x20C, sound := 7, index := 0x123, stack := [0x20C] }

/-- The processor behind so many of its instructions. -/
def errandRunner (count : Nat) : Processor :=
  { loaded errand plainSetup with core := errandCore count, completed := count }

theorem step_errandRunner {k : Nat} (hk : k < 6) :
    ∃ decoded, (errandRunner k).step = (.completed decoded, errandRunner (k + 1)) := by
  obtain rfl | rfl | rfl | rfl | rfl | rfl :
      k = 0 ∨ k = 1 ∨ k = 2 ∨ k = 3 ∨ k = 4 ∨ k = 5 := by omega
  · obtain ⟨i, hstep⟩ := step_of_image .loadImmediate (p := errandRunner 0) (k := 0)
      fits_errand rfl rfl (by decide) rfl (by decide) rfl rfl rfl
    exact ⟨_, hstep⟩
  · obtain ⟨i, hstep⟩ := step_of_image .setDelay (p := errandRunner 1) (k := 2)
      fits_errand rfl rfl (by decide) rfl (by decide) rfl rfl rfl
    exact ⟨_, hstep⟩
  · obtain ⟨i, hstep⟩ := step_of_image .loadImmediate (p := errandRunner 2) (k := 4)
      fits_errand rfl rfl (by decide) rfl (by decide) rfl rfl rfl
    exact ⟨_, hstep⟩
  · obtain ⟨i, hstep⟩ := step_of_image .setSound (p := errandRunner 3) (k := 6)
      fits_errand rfl rfl (by decide) rfl (by decide) rfl rfl rfl
    exact ⟨_, hstep⟩
  · obtain ⟨i, hstep⟩ := step_of_image .loadIndex (p := errandRunner 4) (k := 8)
      fits_errand rfl rfl (by decide) rfl (by decide) rfl rfl rfl
    exact ⟨_, hstep⟩
  · obtain ⟨i, hstep⟩ := step_of_image .call (p := errandRunner 5) (k := 10)
      fits_errand rfl rfl (by decide) rfl (by decide) rfl rfl rfl
    exact ⟨_, hstep⟩

theorem step_errandRunner_six :
    ∃ q reached, (errandRunner 6).step = (.failed (.illegal 0xFFFF 0x20C) reached, q) := by
  have hb : (errandRunner 6).Bounded :=
    { bounded_loaded fits_errand plainSetup with
      core := ⟨by decide, by decide, by decide, by decide, by decide, by decide⟩ }
  have hopcode : (errandRunner 6).opcode = 0xFFFF :=
    opcode_of_image fits_errand rfl (k := 12) rfl (by decide)
  have hfaulty : Faulty (errandRunner 6) (.illegal (errandRunner 6).opcode 0x20C) :=
    .illegal (by decide) (by rw [hopcode]; decide)
  rw [hopcode] at hfaulty
  obtain ⟨q, hfails⟩ := fails_of_faulty hb hfaulty
  obtain ⟨reached, hstep⟩ := step_of_fails hb rfl rfl hfails
  exact ⟨q, reached, hstep⟩

/-- All six instructions and what is not one are tried. -/
theorem tried_errandRunner :
    (errandRunner 0).tried 10 = (List.range 7).map errandRunner := by
  obtain ⟨_, _, hfault⟩ := step_errandRunner_six
  have hsix := tried_of_steps errandRunner (fun _ hi => step_errandRunner hi) 4
  rw [tried_succ_of_failed hfault] at hsix
  rw [hsix]
  rfl

end Processor

namespace Console

/-- A console that runs this program and keeps the last two steps. -/
def errandConsole : Console :=
  around (Processor.errandRunner 0) Clock.standard (some (History.empty 2))

/-- The last instruction and the fault behind it are kept, each with the state just before it. -/
theorem entries_faithful_errandConsole :
    ∃ history, (errandConsole.serveEach [.frame]).history = some history ∧
      history.entries none =
        [⟨⟨0x20A, 0x123, 5, 7, 0, 5 :: 7 :: List.replicate 14 0⟩, some 0x220C, "CALL", ""⟩,
          ⟨⟨0x20C, 0x123, 5, 7, 1, 5 :: 7 :: List.replicate 14 0⟩, none, "", "fault"⟩] := by
  obtain ⟨decoded, hcall⟩ := Processor.step_errandRunner (k := 5) (by decide)
  obtain ⟨q, reached, hfault⟩ := Processor.step_errandRunner_six
  have hopcode : (Processor.errandRunner 5).opcode = 0x220C :=
    Processor.opcode_of_image Processor.fits_errand rfl (k := 10) rfl (by decide)
  have hattempts : (errandConsole.attempts [.frame]).rtake 2
      = [Processor.errandRunner 5, Processor.errandRunner 6] := by
    show ((Processor.errandRunner 0).tried 10 ++ []).rtake 2 = _
    rw [Processor.tried_errandRunner]
    rfl
  have hstart : start Processor.errand Processor.plainSetup Clock.standard
      (History.ofCapacity? 2) = .ok errandConsole :=
    start_eq_ok_iff.mpr ⟨by decide, by decide, Processor.fits_errand, rfl⟩
  obtain ⟨history, hhistory, hshows⟩ := entries_faithful (by decide) hstart [.frame]
  refine ⟨history, hhistory, ?_⟩
  change List.Forall₂ _ ((errandConsole.attempts [.frame]).rtake 2) _ at hshows
  rw [hattempts] at hshows
  obtain ⟨first, _, hshown, htail, heq⟩ := List.forall₂_cons_left_iff.mp hshows
  obtain ⟨second, _, hfailed, hnil, rfl⟩ := List.forall₂_cons_left_iff.mp htail
  rw [heq, List.forall₂_nil_left_iff.mp hnil]
  cases hshown with
  | failed h =>
      rw [hcall] at h
      cases h
  | @completed _ i s _ hl hs =>
      rw [hopcode] at hl
      cases hl
      cases hfailed with
      | completed h =>
          rw [hfault] at h
          cases h
      | @failed _ _ s' _ hs' =>
          rw [hopcode, hs.eq_mk, hs'.eq_mk]
          rfl

end Console

end Chip8
