/-
Runs of a front end, from beginning to end.

A front end loads its program, opens the window, goes its rounds and closes the window.  Neither
opening nor closing touches the console.  `lapsOf` are the rounds of a run, and a run comes to
what the last of them comes to (`run_eq_of_mem_lapsOf`).
-/
import Chip8.Proofs.Rounds
import Chip8.Proofs.Footprint

namespace Chip8

/-! ### Programs in files -/

theorem Program.ofFinding_eq_ok_iff {path : FilePath} {found : Finding} {program : Program} :
    ofFinding path found = .ok program ↔
      ∃ content, found = .file content ∧ FitsProgramSpace content ∧
        program = ⟨path.name, content⟩ := by
  constructor
  · intro h
    unfold ofFinding at h
    split at h
    · cases h
    · next content hread =>
      split at h
      · next hprogram =>
        cases h
        cases found with
        | file content' =>
          cases hread
          exact ⟨content, rfl, ofImage_eq_ok_iff.mp hprogram⟩
        | directory | missing | belowFile | badName => cases hread
      · cases h
  · rintro ⟨content, rfl, hprogram⟩
    rw [ofFinding, Finding.read]
    dsimp only
    rw [ofImage_eq_ok_iff.mpr hprogram]

namespace Window

variable {settings : WindowSettings} {s : State} {find : FilePath → Finding} {host : Host}
  {d : Diagnostics} {console : Console}

/-! ### Loading the program -/

theorem loadProgram_eq_ok_iff {program : Program} :
    loadProgram settings find = .ok program ↔
      ∃ path content, settings.program = some path ∧ find path = .file content ∧
        FitsProgramSpace content ∧ program = ⟨path.name, content⟩ := by
  constructor
  · intro h
    unfold loadProgram at h
    split at h
    · cases h
    · next path hpath =>
      dsimp only at h
      split at h
      · cases h
      · split at h
        · next hfound =>
          cases h
          obtain ⟨content, hcontent, hfit, hprogram⟩ := Program.ofFinding_eq_ok_iff.mp hfound
          exact ⟨path, content, hpath, hcontent, hfit, hprogram⟩
        · cases h
        · cases h
  · rintro ⟨path, content, hpath, hcontent, hfit, rfl⟩
    have hfound : Program.ofFinding path (.file content) = .ok ⟨path.name, content⟩ :=
      Program.ofFinding_eq_ok_iff.mpr ⟨content, rfl, hfit, rfl⟩
    rw [loadProgram, hpath]
    dsimp only
    rw [hcontent, if_neg (by simp [Finding.isPresent]), hfound]

/-- The set-up of the console that a front end runs. -/
def setupFor (settings : WindowSettings) (random : RandomSource) : Processor.Setup :=
  ⟨settings.truncateJump, random, DecodeTable.standard⟩

/-- The console that runs a program. -/
def consoleFor (settings : WindowSettings) (host : Host) (d : Diagnostics)
    (content : Array UInt8) : Console :=
  .around (.loaded content (setupFor settings host.random)) ⟨settings.clockSpeed, frameRate⟩
    (historyFor (d.enabled (some "trace")))

/-- The console that a front end loads, if it can. -/
def load (settings : WindowSettings) (find : FilePath → Finding) (host : Host)
    (d : Diagnostics) : Except WindowError Console :=
  loadConsole settings find host.random (historyFor (d.enabled (some "trace")))

theorem load_eq_ok_iff : load settings find host d = .ok console ↔
    ∃ path content, settings.program = some path ∧ find path = .file content ∧
      FitsProgramSpace content ∧ 0 ≤ settings.clockSpeed ∧
      console = consoleFor settings host d content := by
  constructor
  · intro h
    unfold load loadConsole at h
    split at h
    · cases h
    · next program hload =>
      obtain ⟨path, content, hpath, hcontent, hfit, rfl⟩ := loadProgram_eq_ok_iff.mp hload
      dsimp only at h
      split at h
      · next started hstart =>
        cases h
        obtain ⟨hspeed, -, -, hconsole⟩ := Console.start_eq_ok_iff.mp hstart
        exact ⟨path, content, hpath, hcontent, hfit, hspeed, hconsole⟩
      · cases h
  · rintro ⟨path, content, hpath, hcontent, hfit, hspeed, rfl⟩
    have hrate : 0 < frameRate := by decide
    rw [load, loadConsole, loadProgram_eq_ok_iff.mpr ⟨path, content, hpath, hcontent, hfit, rfl⟩]
    dsimp only
    rw [← setupFor, Console.start_eq_ok_iff.mpr ⟨hspeed, hrate, hfit, rfl⟩, consoleFor]

/-! ### Opening and closing the window -/

theorem console_openSound (s : State) : (openSound s).console = s.console := by
  have hmixer : (openMixer s).1.console = s.console := by
    unfold openMixer
    rcases s.host.askMixer with ⟨_ | rate, host⟩
    · dsimp only
      cases (State.call { s with host } (.openMixer .standard)).host.mixerFailure with
      | none => rfl
      | some failure => rfl
    · rfl
  have hconnect : ∀ s, (connectSpeaker s).console = s.console := by
    intro s
    unfold connectSpeaker
    rcases s.host.askMixer with ⟨_ | rate, host⟩
    · rfl
    · dsimp only
      rcases Speaker.connect rate Tone.standardFrequency Speaker.standardVolume host with
        ⟨_ | speaker, host⟩
      · rfl
      · rfl
  unfold openSound
  rcases hopen : openMixer s with ⟨opened, _ | _⟩
  · rw [hopen] at hmixer
    exact hmixer
  · rw [hopen] at hmixer
    exact (hconnect opened).trans hmixer

theorem console_openUp (settings : WindowSettings) (s : State) :
    (openUp settings s).console = s.console := by
  unfold openUp
  cases settings.sound with
  | false => rfl
  | true => exact console_openSound _

/-- The last thing before the rounds is that the window opens. -/
theorem calls_openUp (settings : WindowSettings) (s : State) :
    ∃ earlier, (openUp settings s).host.calls.toList = earlier
      ++ [.openWindow settings.width settings.height settings.fullscreen] :=
  ⟨_, Host.toList_call _ _⟩

theorem console_close (s : State) : (close s).console = s.console := by
  unfold close
  cases s.speaker with
  | none => rfl
  | some speaker => rfl

/-! ### From beginning to end -/

/-- The rounds that a front end goes, if it comes so far. -/
def lapsOf (settings : WindowSettings) (find : FilePath → Finding) (host : Host)
    (d : Diagnostics) : List Lap :=
  match load settings find host d with
  | .error _ => []
  | .ok console =>
    laps settings host.batches (openUp settings ⟨console, none, host, d.consulted⟩)

theorem run_eq (settings : WindowSettings) (find : FilePath → Finding) (host : Host)
    (d : Diagnostics) : run settings find (some host) d =
      match load settings find host d with
      | .error e => ⟨.error e, some host, none, d.consulted⟩
      | .ok console =>
        let ended := rounds settings host.batches
          (openUp settings ⟨console, none, host, d.consulted⟩)
        ⟨ended.1, some (close ended.2).host, some (close ended.2).console,
          (close ended.2).diagnostics⟩ := rfl

section

variable (h : load settings find host d = .ok console)

include h

theorem lapsOf_of_ok : lapsOf settings find host d
    = laps settings host.batches (openUp settings ⟨console, none, host, d.consulted⟩) := by
  rw [lapsOf, h]

/-- The outcome of a front end that goes its rounds. -/
theorem run_of_ok : run settings find (some host) d =
    let ended := rounds settings host.batches (openUp settings ⟨console, none, host, d.consulted⟩)
    ⟨ended.1, some (close ended.2).host, some (close ended.2).console,
      (close ended.2).diagnostics⟩ := by
  rw [run_eq, h]

end

theorem run_of_error {e : WindowError}
    (h : load settings find host d = .error e) :
    run settings find (some host) d = ⟨.error e, some host, none, d.consulted⟩ := by
  rw [run_eq, h]

theorem loaded_of_mem_lapsOf {l : Lap} (hl : l ∈ lapsOf settings find host d) :
    ∃ console, load settings find host d = .ok console := by
  cases h : load settings find host d with
  | ok console => exact ⟨console, rfl⟩
  | error e =>
      rw [lapsOf, h] at hl
      cases hl

/-- A front end that goes its rounds comes to what the last of them comes to. -/
theorem run_eq_of_mem_lapsOf {l : Lap} (hl : l ∈ lapsOf settings find host d) :
    ∃ last, (lapsOf settings find host d).getLast? = some last ∧
      run settings find (some host) d = ⟨last.result, some (close last.after).host,
        some (close last.after).console, (close last.after).diagnostics⟩ := by
  obtain ⟨console, hload⟩ := loaded_of_mem_lapsOf hl
  obtain ⟨last, hlast, hrounds⟩ := rounds_eq settings host.batches
    (openUp settings ⟨console, none, host, d.consulted⟩)
  refine ⟨last, ?_, ?_⟩
  · rw [lapsOf_of_ok hload]
    exact hlast
  · rw [run_of_ok hload]
    dsimp only
    rw [hrounds]

/-- What is known of a run from its rounds, and of these from the script. -/
theorem lapsOf_of_run_ok
    (hload : load settings find host d = .ok console)
    (h : (run settings find (some host) d).result = .ok ()) :
    (lapsOf settings find host d).map Lap.events = script host.batches ∧
      (lapsOf settings find host d).map (·.ready.console)
        = console.played (script host.batches) ∧
      ∃ last, (run settings find (some host) d).console = some last ∧
        last.frames = console.frames + (script host.batches).length := by
  rw [run_of_ok hload] at h ⊢
  rw [lapsOf_of_ok hload]
  obtain ⟨hevents, hplayed, -⟩ := laps_of_ok h
  have hframes := frames_of_ok h
  rw [console_openUp] at hplayed hframes
  refine ⟨hevents, hplayed, _, rfl, ?_⟩
  rw [console_close]
  exact hframes

/-! ### A small run -/

/-- A program that clears the screen, and then stops at an instruction that is none. -/
def clearing : Array UInt8 := #[0x00, 0xE0]

theorem fits_clearing : FitsProgramSpace clearing := by decide

/-- Settings without sound under which a frame is one instruction. -/
def slowSettings : WindowSettings :=
  ⟨some (FilePath.ofText "clearing"), 60, false, 64, 32, false, false⟩

/-- A host whose random numbers are all zero. -/
def plainHost (batches : List (List HostEvent)) : Host :=
  ⟨⟨[]⟩, none, ⟨[]⟩, batches, #[], .sequence (fun _ => 0) 0⟩

/-- The console that is about to run the program. -/
def clearingConsole : Console :=
  .around (.loaded clearing Processor.plainSetup) ⟨60, frameRate⟩ none

theorem load_clearing (batches : List (List HostEvent)) :
    load slowSettings (fun _ => .file clearing) (plainHost batches) (.start none)
      = .ok clearingConsole := by
  refine load_eq_ok_iff.mpr ⟨_, clearing, rfl, rfl, fits_clearing, by decide, ?_⟩
  have hquiet : (Diagnostics.start none).enabled (some "trace") = false := by decide
  rw [consoleFor, hquiet]
  rfl

/-- The window before the first round. -/
def clearingStart (batches : List (List HostEvent)) : State :=
  openUp slowSettings ⟨clearingConsole, none, plainHost batches, (Diagnostics.start none).consulted⟩

theorem console_clearingStart (batches : List (List HostEvent)) :
    (clearingStart batches).console = clearingConsole := console_openUp _ _

theorem lapsOf_clearing (batches : List (List HostEvent)) :
    lapsOf slowSettings (fun _ => .file clearing) (plainHost batches) (.start none)
      = laps slowSettings batches (clearingStart batches) :=
  lapsOf_of_ok (load_clearing batches)

/-- Its first step clears the screen, whatever keys are held. -/
theorem step_clearing (keypad : Keypad) : ∃ decoded q,
    { clearingConsole.processor with keypad }.step = (.completed decoded, q) := by
  obtain ⟨i, hstep⟩ := Processor.step_of_image .clearScreen
    (p := { clearingConsole.processor with keypad }) (k := 0) fits_clearing rfl rfl (by decide)
    rfl (by decide) rfl rfl rfl
  exact ⟨⟨_, i⟩, _, hstep⟩

/-- So the first round goes well, whatever happens in it. -/
theorem result_clearing (batches : List (List HostEvent)) (events : List HostEvent) :
    (lap slowSettings events (clearingStart batches)).result = .ok () := by
  obtain ⟨keypad, hkeypad⟩ := Console.attend_eq clearingConsole events
  obtain ⟨decoded, q, hstep⟩ := step_clearing keypad
  have hone : clearingConsole.clock.perFrame = 1 := by decide
  have hcompletes : Processor.Completes clearingConsole.clock.perFrame
      { clearingConsole.processor with keypad } q := by
    rw [hone]
    exact .step hstep (.refl q)
  have hwhole : (events.foldl Console.attend clearingConsole).fault? = none := by
    rw [hkeypad]
    exact Console.fault?_of_completes hcompletes
  have hsilent : (clearingStart batches).speaker = none := rfl
  rw [(lap_of_silent slowSettings events hsilent).1, console_clearingStart, hwhole, endOf]

end Window

end Chip8
