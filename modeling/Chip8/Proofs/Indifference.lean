/-
No run depends on diagnostics.

A window asks its diagnostics before it loads the program, whether to record a history, and
offers them lines all along.  Two windows under different diagnostics stay twins: they have the
same host, the same speaker and, apart from the history, the same console, whatever happens to
them both, and they end alike.
-/
import Chip8.Proofs.Runs
import Chip8.Proofs.Watching

namespace Chip8

/-! ### Consoles that differ in the history -/

namespace Console

variable {c c' : Console}

theorem attend_untraced (c : Console) (event : HostEvent) :
    (c.attend event).untraced = c.untraced.attend event := by
  have hkey : ∀ name down, (c.key name down).untraced = c.untraced.key name down := by
    intro name down
    rw [key, key]
    cases Keypad.ofName? name with
    | none => rfl
    | some key => rfl
  cases event with
  | quit | other => rfl
  | keyDown name => exact hkey name true
  | keyUp name => exact hkey name false

theorem attendEach_untraced (c : Console) (events : List HostEvent) :
    (events.foldl attend c).untraced = events.foldl attend c.untraced := by
  induction events generalizing c with
  | nil => rfl
  | cons event rest ih => rw [List.foldl_cons, List.foldl_cons, ih, attend_untraced]

/-- Their frames come to the same, and leave consoles that differ in the history again. -/
theorem runFrame_of_untraced (h : c.untraced = c'.untraced) :
    c.runFrame.outcome = c'.runFrame.outcome ∧
      c.runFrame.console.untraced = c'.runFrame.console.untraced := by
  have hresult := result_untraced c
  rw [h, result_untraced c', Prod.mk.injEq] at hresult
  exact ⟨hresult.1.symm, hresult.2.symm⟩

end Console

namespace Window

variable {settings : WindowSettings} {s s' : State}

/-! ### Twins -/

/-- Two windows that differ in diagnostics and history only. -/
structure Twin (s s' : State) : Prop where
  console : s.console.untraced = s'.console.untraced
  speaker : s.speaker = s'.speaker
  host : s.host = s'.host

namespace Twin

theorem processor (h : Twin s s') : s.console.processor = s'.console.processor := by
  show s.console.untraced.processor = s'.console.untraced.processor
  rw [h.console]

theorem sounding (h : Twin s s') : s.console.sounding = s'.console.sounding := by
  show s.console.untraced.sounding = s'.console.untraced.sounding
  rw [h.console]

theorem call (h : Twin s s') (c : HostCall) : Twin (s.call c) (s'.call c) :=
  ⟨h.console, h.speaker, congrArg (Host.call · c) h.host⟩

/-- What is logged is no matter. -/
theorem log (h : Twin s s') (category category' message message' : String) :
    Twin (s.log category message) (s'.log category' message') := ⟨h.console, h.speaker, h.host⟩

/-- What reaches nothing but the console keeps twins if it keeps their consoles. -/
theorem of_kept {t t' : State} (h : Twin s s')
    (hconsole : t.console.untraced = t'.console.untraced)
    (hkept : t.host = s.host ∧ t.speaker = s.speaker)
    (hkept' : t'.host = s'.host ∧ t'.speaker = s'.speaker) : Twin t t' := by
  refine ⟨hconsole, ?_, ?_⟩
  · rw [hkept.2, hkept'.2, h.speaker]
  · rw [hkept.1, hkept'.1, h.host]

theorem handleEvents (h : Twin s s') (events : List HostEvent) :
    Twin (events.foldl handleEvent s) (events.foldl handleEvent s') := by
  obtain ⟨hconsole, hkept⟩ := handleEvents_spec s events
  obtain ⟨hconsole', hkept'⟩ := handleEvents_spec s' events
  refine h.of_kept ?_ hkept hkept'
  rw [hconsole, hconsole', Console.attendEach_untraced, Console.attendEach_untraced, h.console]

theorem showHistory (h : Twin s s') : Twin (showHistory s) (showHistory s') := by
  obtain ⟨hconsole, hkept⟩ := showHistory_spec s
  obtain ⟨hconsole', hkept'⟩ := showHistory_spec s'
  refine h.of_kept ?_ hkept hkept'
  rw [hconsole, hconsole', h.console]

theorem presentIfDrawn (h : Twin s s') (settings : WindowSettings) :
    Twin (presentIfDrawn settings s) (presentIfDrawn settings s') := by
  rw [Window.presentIfDrawn, Window.presentIfDrawn, ← h.processor]
  cases s.console.processor.redraw with
  | false => exact h
  | true =>
      refine ⟨?_, h.speaker, ?_⟩
      · exact congrArg (fun c : Console => { c with processor := c.processor.acknowledge })
          h.console
      · show (present settings s).host = (present settings s').host
        rw [present, present, h.processor, h.host]

/-- The tone is made, or cannot be made, for both. -/
theorem updateSound (h : Twin s s') :
    (∃ e, updateSound s = .error e ∧ updateSound s' = .error e) ∨
      ∃ t t', updateSound s = .ok t ∧ updateSound s' = .ok t' ∧ Twin t t' := by
  rw [Window.updateSound, Window.updateSound, ← h.speaker, ← h.sounding, ← h.host]
  cases s.speaker with
  | none => exact .inr ⟨s, s', rfl, rfl, h⟩
  | some speaker =>
      dsimp only
      cases speaker.set s.console.sounding s.host with
      | error e => exact .inl ⟨e, rfl, rfl⟩
      | ok after => exact .inr ⟨_, _, rfl, rfl, h.console, rfl, rfl⟩

/-! ### Rounds -/

theorem finishRound (h : Twin s s') (settings : WindowSettings) :
    (finishRound settings s).1 = (finishRound settings s').1 ∧
      Twin (finishRound settings s).2 (finishRound settings s').2 := by
  obtain ⟨houtcome, hconsole⟩ := Console.runFrame_of_untraced h.console
  rw [Window.finishRound, Window.finishRound, runFrame_eq, runFrame_eq, ← houtcome]
  have hframed : Twin (framed s) (framed s') := ⟨hconsole, h.speaker, h.host⟩
  cases s.console.runFrame.outcome with
  | error fault => exact ⟨rfl, hframed.showHistory⟩
  | ok instructions =>
      dsimp only
      rcases hframed.updateSound with ⟨e, hs, hs'⟩ | ⟨t, t', hs, hs', htwin⟩
      · rw [hs, hs']
        exact ⟨rfl, hframed⟩
      · rw [hs, hs']
        exact ⟨rfl, ((htwin.presentIfDrawn settings).log _ _ _ _).call _⟩

theorem round (h : Twin s s') (settings : WindowSettings) (events : List HostEvent) :
    (lap settings events s).result = (lap settings events s').result ∧
      Twin (lap settings events s).after (lap settings events s').after :=
  (h.handleEvents events).finishRound settings

theorem rounds (h : Twin s s') (settings : WindowSettings) (batches : List (List HostEvent)) :
    (rounds settings batches s).1 = (rounds settings batches s').1 ∧
      Twin (rounds settings batches s).2 (rounds settings batches s').2 := by
  induction batches generalizing s s' with
  | nil => exact h.round settings [.quit]
  | cons events rest ih =>
      obtain ⟨hresult, hafter⟩ := h.round settings events
      cases hs : (lap settings events s).result with
      | error e =>
          rw [rounds_cons_of_error hs, rounds_cons_of_error (hresult.symm.trans hs)]
          exact ⟨rfl, hafter⟩
      | ok _ =>
          rw [rounds_cons_of_ok hs, rounds_cons_of_ok (hresult.symm.trans hs)]
          cases events.any wantsQuit with
          | true => exact ⟨rfl, hafter⟩
          | false => exact ih hafter

/-! ### Opening and closing -/

theorem openMixer (h : Twin s s') :
    (openMixer s).2 = (openMixer s').2 ∧ Twin (openMixer s).1 (openMixer s').1 := by
  rw [Window.openMixer, Window.openMixer, ← h.host]
  rcases s.host.askMixer with ⟨_ | rate, host⟩
  · dsimp only [State.call]
    cases (host.call (.openMixer .standard)).mixerFailure with
    | none => exact ⟨rfl, h.console, h.speaker, rfl⟩
    | some failure => exact ⟨rfl, h.console, h.speaker, rfl⟩
  · exact ⟨rfl, h.console, h.speaker, rfl⟩

theorem connectSpeaker (h : Twin s s') : Twin (connectSpeaker s) (connectSpeaker s') := by
  rw [Window.connectSpeaker, Window.connectSpeaker, ← h.host]
  rcases s.host.askMixer with ⟨_ | rate, host⟩
  · exact ⟨h.console, h.speaker, rfl⟩
  · dsimp only
    rcases Speaker.connect rate Tone.standardFrequency Speaker.standardVolume host with
      ⟨_ | speaker, host⟩
    · exact ⟨h.console, h.speaker, rfl⟩
    · exact ⟨h.console, rfl, rfl⟩

theorem openSound (h : Twin s s') : Twin (openSound s) (openSound s') := by
  obtain ⟨hopen, htwin⟩ := h.openMixer
  unfold Window.openSound
  generalize Window.openMixer s = opened at hopen htwin ⊢
  generalize Window.openMixer s' = opened' at hopen htwin ⊢
  obtain ⟨t, went⟩ := opened
  obtain ⟨t', went'⟩ := opened'
  obtain rfl : went = went' := hopen
  cases went with
  | false => exact htwin
  | true => exact htwin.connectSpeaker

theorem openUp (h : Twin s s') (settings : WindowSettings) :
    Twin (openUp settings s) (openUp settings s') := by
  rw [Window.openUp, Window.openUp]
  cases settings.sound with
  | false => exact ((h.call _).call _).call _
  | true => exact ((((h.call _).call _).call _).openSound).call _

theorem close (h : Twin s s') : Twin (close s) (close s') := by
  rw [Window.close, Window.close, ← h.speaker, ← h.host]
  cases s.speaker with
  | none => exact h.call _
  | some speaker => exact ⟨h.console, rfl, rfl⟩

end Twin

/-! ### Whole runs -/

/-- A history changes neither whether a console can be loaded nor which one it is. -/
theorem loadConsole_untraced (settings : WindowSettings) (find : FilePath → Finding)
    (random : RandomSource) (history : Option History) :
    (loadConsole settings find random history).map Console.untraced
      = loadConsole settings find random none := by
  rw [loadConsole, loadConsole]
  cases loadProgram settings find with
  | error e => rfl
  | ok program =>
      have hrate : ¬ frameRate ≤ 0 := by decide
      dsimp only
      rw [Console.start, Console.start]
      by_cases hspeed : settings.clockSpeed < 0
      · rw [if_pos hspeed, if_pos hspeed]
        rfl
      · rw [if_neg hspeed, if_neg hspeed, if_neg hrate, if_neg hrate]
        cases Processor.start program.image _ with
        | error e => rfl
        | ok processor => rfl

/-- What two runs have in common that differ in diagnostics and history only. -/
structure Outcome.Agrees (o o' : Outcome) : Prop where
  result : o.result = o'.result
  /-- The host has received the same calls. -/
  host : o.host = o'.host
  console : o.console.map Console.untraced = o'.console.map Console.untraced

/-- **A window does the same under all diagnostics.** -/
theorem run_agrees (settings : WindowSettings) (find : FilePath → Finding) (host : Option Host)
    (d d' : Diagnostics) : (run settings find host d).Agrees (run settings find host d') := by
  cases host with
  | none => exact ⟨rfl, rfl, rfl⟩
  | some host =>
      have hload := loadConsole_untraced settings find host.random
        (historyFor (d.enabled (some "trace")))
      have hload' := loadConsole_untraced settings find host.random
        (historyFor (d'.enabled (some "trace")))
      rw [← hload'] at hload
      rw [run_eq, run_eq]
      change (load settings find host d).map _ = (load settings find host d').map _ at hload
      cases hc : load settings find host d with
      | error e =>
          cases hc' : load settings find host d' with
          | error e' =>
              rw [hc, hc'] at hload
              cases hload
              exact ⟨rfl, rfl, rfl⟩
          | ok console' =>
              rw [hc, hc'] at hload
              cases hload
      | ok console =>
          cases hc' : load settings find host d' with
          | error e' =>
              rw [hc, hc'] at hload
              cases hload
          | ok console' =>
              rw [hc, hc'] at hload
              have hconsole : console.untraced = console'.untraced := Except.ok.inj hload
              have hfirst : Twin ⟨console, none, host, d.consulted⟩
                  ⟨console', none, host, d'.consulted⟩ := ⟨hconsole, rfl, rfl⟩
              obtain ⟨hresult, hended⟩ := (hfirst.openUp settings).rounds settings host.batches
              have hclosed := hended.close
              exact ⟨hresult, congrArg some hclosed.host, congrArg some hclosed.console⟩

end Window

/-! ### A program that faults -/

namespace Processor

/-- A program that loads a register and comes back from a subroutine it is not in. -/
def strayReturn : Array UInt8 := #[0x60, 0x05, 0x00, 0xEE]

theorem fits_strayReturn : FitsProgramSpace strayReturn := by decide

/-- The return comes next. -/
def beforeReturn : Processor :=
  { loaded strayReturn plainSetup with
    core := { Core.initial.setReg 0 5 with pc := 0x202 }
    completed := 1 }

theorem serve_strayReturn : (loaded strayReturn plainSetup).serve .step = beforeReturn := by
  obtain ⟨i, hi⟩ := step_of_image (p := loaded strayReturn plainSetup) .loadImmediate
    fits_strayReturn rfl (k := 0) rfl (by decide) rfl (by decide) rfl rfl rfl
  rw [serve_step, hi]
  rfl

theorem line?_strayReturn :
    (loaded strayReturn plainSetup).line? = some "[CHIP8][cpu] pc=0200 opcode=6005 LD" := by
  have hopcode : (loaded strayReturn plainSetup).opcode = 0x6005 :=
    opcode_of_image fits_strayReturn rfl (k := 0) rfl (by decide)
  have hf := fetches_of_image (p := loaded strayReturn plainSetup) fits_strayReturn rfl (k := 0)
    rfl (by decide)
  rw [line?, if_pos ⟨rfl, hf⟩, hopcode]
  rfl

theorem opcode_beforeReturn : beforeReturn.opcode = 0x00EE :=
  opcode_of_image fits_strayReturn rfl (k := 2) rfl (by decide)

theorem fetches_beforeReturn : beforeReturn.Fetches :=
  fetches_of_image fits_strayReturn rfl (k := 2) rfl (by decide)

theorem line?_beforeReturn :
    beforeReturn.line? = some "[CHIP8][cpu] pc=0202 opcode=00ee RET" := by
  rw [line?, if_pos ⟨rfl, fetches_beforeReturn⟩, opcode_beforeReturn]
  rfl

/-- The return faults, as there is nowhere to go. -/
theorem halted_beforeReturn : (beforeReturn.serve .step).halted = true := by
  obtain ⟨i, hl, hr⟩ : ∃ i, beforeReturn.table.lookup beforeReturn.opcode = some i ∧
      i.routine = .operation .returnFromCall := by
    rw [opcode_beforeReturn]
    exact ⟨_, rfl, rfl⟩
  have hstep := step_of_steps rfl (.cut fetches_beforeReturn hl hr (.emptyStack rfl))
  rw [serve_step, hstep]
  rfl

/-- A processor that has stopped has no lines. -/
theorem line?_of_halted {p : Processor} (h : p.halted = true) : p.line? = none := by
  rw [line?, if_neg (by simp [h])]

end Processor

/-! ### Diagnostics only watch -/

/--
**Diagnostics only watch, and see every instruction.**  Lines are printed in the course of steps
and frames as they are printed at the end of them.  Under any two diagnostics a processor and a
console answer every request alike and are left the same, and a window ends alike, with the same
calls to its host and, apart from the history, the same console.  While steps are printed and keys
are not, requests print a line for each step that fetches and decodes an instruction, whether or
not it is completed then, and nothing else.
-/
theorem diagnostics_only_watch {setup : Processor.Setup} {p : Processor} {d : Diagnostics}
    (hp : Processor.Reachable setup p) (hcpu : d.enabled (some "cpu") = true)
    (hinput : d.enabled (some "input") = false) (requests : List Processor.Request) :
    (∀ (p : Processor) d, p.stepWatched d = p.stepLogged d) ∧
    (∀ (c : Console) d, Console.turnsWatched 0 c.clock.perFrame c d
      = ((c.runFrameLogged d).1.result, (c.runFrameLogged d).2)) ∧
    (∀ (p : Processor) requests d d',
      (p.trajectoryLogged d requests).1 = (p.trajectoryLogged d' requests).1) ∧
    (∀ (c : Console) requests d d',
      (c.trajectoryLogged d requests).1 = (c.trajectoryLogged d' requests).1) ∧
    (∀ settings find host d d',
      (Window.run settings find host d).Agrees (Window.run settings find host d')) ∧
    (p.trajectoryLogged d requests).2.printed.toList = d.printed.toList ++ p.lines requests := by
  refine ⟨Processor.stepWatched_eq, ?_, ?_, ?_, Window.run_agrees, ?_⟩
  · intro c d
    exact (c.runFrameLogged_eq d).symm
  · intro p requests d d'
    rw [Processor.trajectoryLogged_fst, Processor.trajectoryLogged_fst]
  · intro c requests d d'
    rw [Console.trajectoryLogged_fst, Console.trajectoryLogged_fst]
  · exact Processor.printed_trajectoryLogged hp hcpu hinput requests

/-- The step that faults in its operation has a line, and the one after it has none. -/
theorem diagnostics_only_watch_strayReturn :
    Processor.start Processor.strayReturn Processor.plainSetup
        = .ok (.loaded Processor.strayReturn Processor.plainSetup) ∧
      ((Processor.loaded Processor.strayReturn Processor.plainSetup).trajectoryLogged
          (.start (some "cpu")) [.step, .step, .step]).2.printed.toList
        = ["[CHIP8][cpu] pc=0200 opcode=6005 LD", "[CHIP8][cpu] pc=0202 opcode=00ee RET"] := by
  have hstart : Processor.start Processor.strayReturn Processor.plainSetup
      = .ok (.loaded Processor.strayReturn Processor.plainSetup) :=
    Processor.start_eq_ok_iff.mpr ⟨Processor.fits_strayReturn, rfl⟩
  obtain ⟨-, -, -, -, -, hprinted⟩ := diagnostics_only_watch (d := .start (some "cpu"))
    (.start hstart) (by decide) (by decide) [.step, .step, .step]
  refine ⟨hstart, ?_⟩
  rw [hprinted]
  simp only [Processor.lines, Processor.linesFor, Processor.serve_strayReturn,
    Processor.line?_strayReturn, Processor.line?_beforeReturn,
    Processor.line?_of_halted Processor.halted_beforeReturn]
  rfl

end Chip8
