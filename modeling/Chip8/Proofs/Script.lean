/-
What a script makes of a console.

The events of a batch reach nothing but the keypad, a frame is run behind each batch, and the
screen is shown: so what becomes of a console can be told without a window.  `Console.played`
lists the consoles just before their frames, and the first of these frames that is cut, if
there is one, is the end of the story (`Console.firstFault`).

A front end does not take all batches that a host has in store but only those of the `script`,
which ends with the first wish to quit.
-/
import Chip8.Window
import Chip8.Proofs.Frame

namespace Chip8

/-! ### Events and frames -/

namespace Console

/-- The console after a host key went down or up; a key without a place on the keypad is lost. -/
def key (c : Console) (name : String) (down : Bool) : Console :=
  match Keypad.ofName? name with
  | none => c
  | some key => { c with processor := c.processor.hold key down }

/-- The console after an event. -/
def attend (c : Console) : HostEvent → Console
  | .keyDown name => c.key name true
  | .keyUp name => c.key name false
  | .quit | .other => c

/-- The console after a frame whose screen was shown. -/
def shown (c : Console) : Console :=
  { c.runFrame.console with processor := c.runFrame.console.processor.acknowledge }

theorem key_eq (c : Console) (name : String) (down : Bool) :
    ∃ keypad, c.key name down = { c with processor := { c.processor with keypad } } := by
  unfold key
  cases Keypad.ofName? name with
  | none => exact ⟨c.processor.keypad, rfl⟩
  | some key => exact ⟨c.processor.keypad.set key down, rfl⟩

/-- Events reach nothing but the keypad. -/
theorem attend_eq (c : Console) (events : List HostEvent) :
    ∃ keypad, events.foldl attend c = { c with processor := { c.processor with keypad } } := by
  induction events generalizing c with
  | nil => exact ⟨c.processor.keypad, rfl⟩
  | cons event rest ih =>
      have hevent : ∃ keypad,
          c.attend event = { c with processor := { c.processor with keypad } } := by
        cases event with
        | quit | other => exact ⟨c.processor.keypad, rfl⟩
        | keyDown name | keyUp name => exact key_eq c name _
      obtain ⟨keypad, hkeypad⟩ := hevent
      obtain ⟨keypad', hkeypad'⟩ := ih (c.attend event)
      rw [List.foldl_cons, hkeypad', hkeypad]
      exact ⟨keypad', rfl⟩

variable {c : Console} {setup : Processor.Setup}

theorem reachable_key (h : Processor.Reachable setup c.processor) (name : String) (down : Bool) :
    Processor.Reachable setup (c.key name down).processor := by
  unfold key
  cases Keypad.ofName? name with
  | none => exact h
  | some key =>
      have hserve := h.serve (.press key.val down)
      rw [Processor.serve, Processor.press, Keypad.key?_eq_some_iff.mpr rfl] at hserve
      exact hserve

/-- What events make of a console could have been asked of its processor as well. -/
theorem reachable_attend (h : Processor.Reachable setup c.processor) (events : List HostEvent) :
    Processor.Reachable setup (events.foldl attend c).processor := by
  induction events generalizing c with
  | nil => exact h
  | cons event rest ih =>
      refine ih ?_
      cases event with
      | quit | other => exact h
      | keyDown name | keyUp name => exact reachable_key h name _

theorem reachable_shown (h : Processor.Reachable setup c.processor) :
    Processor.Reachable setup c.shown.processor :=
  (reachable_runFrame h).serve .acknowledge

/-- The consoles just before their frames, with one frame behind each batch of events. -/
def played (c : Console) : List (List HostEvent) → List Console
  | [] => []
  | events :: rest =>
    let ready := events.foldl attend c
    ready :: ready.shown.played rest

/-! ### The first frame that is cut -/

/-- The fault that cuts the next frame, if it is cut. -/
def fault? (c : Console) : Option Fault :=
  match c.runFrame.outcome with
  | .ok _ => none
  | .error fault => some fault

theorem fault?_of_completes {q : Processor}
    (h : Processor.Completes c.clock.perFrame c.processor q) : c.fault? = none := by
  rw [fault?, (runFrame_of_completes h).1]

theorem fault?_eq_some_iff {fault : Fault} :
    c.fault? = some fault ↔ ∃ k q, c.CutAt k fault q := by
  rw [← runFrame_error_iff, fault?]
  cases c.runFrame.outcome with
  | ok n =>
      constructor
      · intro h
        cases h
      · intro h
        cases h
  | error fault' => rw [Option.some.injEq, Except.error.injEq]

theorem fault?_eq_none_iff : c.fault? = none ↔ ∀ fault k q, ¬ c.CutAt k fault q := by
  constructor
  · intro h fault k q hcut
    rw [fault?_eq_some_iff.mpr ⟨k, q, hcut⟩] at h
    cases h
  · intro h
    cases hfault : c.fault? with
    | none => rfl
    | some fault =>
        obtain ⟨k, q, hcut⟩ := fault?_eq_some_iff.mp hfault
        exact absurd hcut (h fault k q)

/-- The fault that cuts the first of the frames behind some batches of events that is cut. -/
def firstFault (c : Console) (batches : List (List HostEvent)) : Option Fault :=
  (c.played batches).findSome? fault?

theorem firstFault_cons (c : Console) (events : List HostEvent)
    (rest : List (List HostEvent)) :
    c.firstFault (events :: rest)
      = (events.foldl attend c).fault?.or ((events.foldl attend c).shown.firstFault rest) := by
  rw [firstFault, played, List.findSome?_cons]
  cases (events.foldl attend c).fault? with
  | none => rfl
  | some fault => rfl

theorem firstFault_nil (c : Console) : c.firstFault [] = none := rfl

theorem firstFault_eq_none_iff {batches : List (List HostEvent)} :
    c.firstFault batches = none ↔ ∀ c' ∈ c.played batches, ∀ fault k q, ¬ c'.CutAt k fault q := by
  rw [firstFault, List.findSome?_eq_none_iff]
  exact forall₂_congr fun c' _ => fault?_eq_none_iff

theorem firstFault_eq_some_iff {batches : List (List HostEvent)} {fault : Fault} :
    c.firstFault batches = some fault ↔ ∃ before c' after,
      c.played batches = before ++ c' :: after ∧ (∃ k q, c'.CutAt k fault q) ∧
        ∀ c'' ∈ before, ∀ fault k q, ¬ c''.CutAt k fault q := by
  rw [firstFault, List.findSome?_eq_some_iff]
  simp only [fault?_eq_some_iff, fault?_eq_none_iff]

end Console

namespace Window

/-! ### The batches that are taken -/

/-- The batches up to the first with a wish to quit. -/
def untilQuit : List (List HostEvent) → List (List HostEvent)
  | [] => []
  | events :: rest => if events.any wantsQuit then [events] else events :: untilQuit rest

/-- The batches that a front end takes; once a host's own are used up, it wishes to quit. -/
def script (batches : List (List HostEvent)) : List (List HostEvent) :=
  untilQuit (batches ++ [[.quit]])

variable {events : List HostEvent} {rest : List (List HostEvent)}

theorem script_nil : script [] = [[.quit]] := rfl

theorem script_cons_of_quit (h : events.any wantsQuit = true) :
    script (events :: rest) = [events] := by
  rw [script, List.cons_append, untilQuit, if_pos h]

theorem script_cons_of_not_quit (h : events.any wantsQuit = false) :
    script (events :: rest) = events :: script rest := by
  rw [script, List.cons_append, untilQuit, if_neg (by simp [h]), script]

/-- The script ends with the first wish to quit. -/
theorem script_spec (batches : List (List HostEvent)) :
    ∃ before last rest, batches ++ [[.quit]] = before ++ last :: rest ∧
      script batches = before ++ [last] ∧ last.any wantsQuit = true ∧
      ∀ events ∈ before, events.any wantsQuit = false := by
  induction batches with
  | nil =>
      refine ⟨[], [.quit], [], rfl, script_nil, rfl, ?_⟩
      intro events hevents
      cases hevents
  | cons events others ih =>
      cases hquit : events.any wantsQuit with
      | true =>
          refine ⟨[], events, others ++ [[.quit]], rfl, script_cons_of_quit hquit, hquit, ?_⟩
          intro events hevents
          cases hevents
      | false =>
          obtain ⟨before, last, rest, hsplit, hscript, hlast, hbefore⟩ := ih
          refine ⟨events :: before, last, rest, ?_, ?_, hlast, ?_⟩
          · rw [List.cons_append, hsplit, List.cons_append]
          · rw [script_cons_of_not_quit hquit, hscript, List.cons_append]
          · intro other hother
            rcases List.mem_cons.mp hother with rfl | hother
            · exact hquit
            · exact hbefore other hother

end Window

end Chip8
