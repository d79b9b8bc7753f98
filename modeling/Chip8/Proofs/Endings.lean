/-
How the program ends.

Arguments that can be read name a program (`program_of_parse`), and settings that make sense go
to the front end.  What becomes of it without sound is decided by two things: whether the
program fits, and whether one of the frames that the script asks for is cut, the first such
frame counting (`rounds_of_silent`).  Whatever happens, what the front end has started it shuts
down, and nothing comes after that.
-/
import Chip8.CommandLine.Run
import Chip8.Proofs.Runs

namespace Chip8

/-! ### Kinds of faults -/

/-- The kinds of faults that are told apart, with what is said of each.  They are gone through
in order, as the last one takes every fault. -/
def faultKinds : List ((Fault → Bool) × String) := [
  (fun | .emptyStack _ => true | _ => false, "Stack underflow, possibly corrupted ROM: "),
  (fun | .illegal _ _ => true | _ => false, "ROM contains invalid instructions: "),
  (fun | .access _ => true | _ => false, "Memory access out of range: "),
  (fun _ => true, "Emulation stopped: ")]

/-- What is said of a fault is what is said of the first kind that takes it. -/
theorem WindowError.faultKind_eq (fault : Fault) :
    (faultKinds.find? fun kind => kind.1 fault).map Prod.snd = some (faultKind fault) := by
  cases fault with
  | halted | access | illegal | emptyStack | noSuchKey | noSuchOperation => rfl

namespace Window

variable {settings : WindowSettings} {s t : State} {events : List HostEvent}
  {batches : List (List HostEvent)} {find : FilePath → Finding} {host : Host} {d : Diagnostics}

/-! ### Rounds without sound -/

/-- **Rounds without sound end with the first fault** in the frames that the script asks for. -/
theorem rounds_of_silent (settings : WindowSettings) (batches : List (List HostEvent))
    (hspeaker : s.speaker = none) :
    (rounds settings batches s).1 = endOf (s.console.firstFault (script batches)) ∧
      (rounds settings batches s).2.speaker = none ∧
      s.host.Adds HostCall.OfRound (rounds settings batches s).2.host := by
  induction batches generalizing s with
  | nil =>
      obtain ⟨hresult, hnone, hadds⟩ := lap_of_silent settings [.quit] hspeaker
      rw [script_nil, Console.firstFault_cons, Console.firstFault_nil, Option.or_none]
      exact ⟨hresult, hnone, hadds⟩
  | cons events rest ih =>
      obtain ⟨hresult, hnone, hadds⟩ := lap_of_silent settings events hspeaker
      cases hfault : (events.foldl Console.attend s.console).fault? with
      | some fault =>
          rw [hfault] at hresult
          have hfirst : s.console.firstFault (script (events :: rest)) = some fault := by
            cases hquit : events.any wantsQuit with
            | true =>
                rw [script_cons_of_quit hquit, Console.firstFault_cons, hfault, Option.some_or]
            | false =>
                rw [script_cons_of_not_quit hquit, Console.firstFault_cons, hfault, Option.some_or]
          rw [rounds_cons_of_error hresult, hfirst]
          exact ⟨rfl, hnone, hadds⟩
      | none =>
          rw [hfault] at hresult
          rw [rounds_cons_of_ok hresult]
          cases hquit : events.any wantsQuit with
          | true =>
              rw [if_pos rfl, script_cons_of_quit hquit, Console.firstFault_cons, hfault,
                Option.none_or, Console.firstFault_nil]
              exact ⟨rfl, hnone, hadds⟩
          | false =>
              obtain ⟨hrest, hnone', hadds'⟩ := ih hnone
              rw [if_neg (by simp), script_cons_of_not_quit hquit, Console.firstFault_cons, hfault,
                Option.none_or, hrest, (console_after hresult).2]
              exact ⟨rfl, hnone', hadds.trans hadds'⟩

/-! ### Runs without sound -/

/-- The consoles just before the frames that the script asks for, up to the one in which the user
wishes to quit.  What stands behind a frame that is cut is not reached. -/
def framesFor (settings : WindowSettings) (host : Host) (d : Diagnostics)
    (content : Array UInt8) : List Console :=
  (consoleFor settings host d content).played (script host.batches)

theorem openUp_of_silent (hsilent : settings.sound = false) (s : State) :
    openUp settings s = ((s.call .startUp).call (.setCaption caption)).call
      (.openWindow settings.width settings.height settings.fullscreen) := by
  rw [openUp, hsilent]
  rfl

/-- A front end without sound shuts down what it has started up, and does so last. -/
theorem run_of_silent {console : Console} (hsilent : settings.sound = false)
    (hload : load settings find host d = .ok console) :
    (run settings find (some host) d).result
        = endOf (console.firstFault (script host.batches)) ∧
      ∃ h between, (run settings find (some host) d).host = some h ∧
        h.calls.toList = host.calls.toList ++ [.startUp] ++ between ++ [.shutDown] ∧
        HostCall.startUp ∉ between ∧ HostCall.shutDown ∉ between := by
  have hopen := openUp_of_silent hsilent ⟨console, none, host, d.consulted⟩
  have hnone : (openUp settings ⟨console, none, host, d.consulted⟩).speaker = none := by
    rw [hopen]
    rfl
  have hopened : (openUp settings ⟨console, none, host, d.consulted⟩).host.calls.toList
      = host.calls.toList ++ [.startUp] ++ [.setCaption caption]
        ++ [.openWindow settings.width settings.height settings.fullscreen] := by
    rw [hopen, State.call, Host.toList_call, State.call, Host.toList_call, State.call,
      Host.toList_call]
  obtain ⟨hresult, hstill, calls, hcalls, hadded⟩ :=
    rounds_of_silent settings host.batches hnone
  rw [console_openUp] at hresult
  rw [run_of_ok hload]
  refine ⟨hresult, _, [.setCaption caption,
    .openWindow settings.width settings.height settings.fullscreen] ++ calls, rfl, ?_, ?_, ?_⟩
  · rw [close, hstill]
    show (Host.call _ _).calls.toList = _
    rw [Host.toList_call, hadded, hopened]
    simp only [List.append_assoc, List.cons_append, List.nil_append]
  -- Neither call is one of a round.
  all_goals
    intro hmem
    simp only [List.cons_append, List.nil_append, List.mem_cons, reduceCtorEq, false_or] at hmem
    exact hcalls _ hmem

theorem foreseen_of_loadProgram {e : WindowError} (h : loadProgram settings find = .error e) :
    e.foreseen = true := by
  unfold loadProgram at h
  split at h
  · cases h
    rfl
  · dsimp only at h
    split at h
    · cases h
      rfl
    · split at h
      · cases h
      · cases h
        rfl
      · cases h
        rfl

/-- With a speed that makes sense, every error is foreseen. -/
theorem foreseen_of_load {e : WindowError} (hspeed : 0 ≤ settings.clockSpeed)
    (h : load settings find host d = .error e) : e.foreseen = true := by
  cases hload : loadProgram settings find with
  | error e' =>
      rw [load, loadConsole, hload] at h
      cases h
      exact foreseen_of_loadProgram hload
  | ok program =>
      obtain ⟨path, content, hpath, hfound, hfit, -⟩ := loadProgram_eq_ok_iff.mp hload
      rw [load_eq_ok_iff.mpr ⟨path, content, hpath, hfound, hfit, hspeed, rfl⟩] at h
      cases h

end Window

namespace CommandLine

variable {settings : WindowSettings} {arguments : List String} {find : FilePath → Finding}
  {host : Host} {d : Diagnostics}

/-! ### Arguments that name a program -/

theorem exists_of_bind_eq_ok {α β : Type} {first : Except UsageError α}
    {next : α → Except UsageError β} {b : β} (h : (first >>= next) = .ok b) :
    ∃ a, first = .ok a ∧ next a = .ok b := by
  cases first with
  | error e => cases h
  | ok a => exact ⟨a, rfl, h⟩

theorem program_of_takeAll {r : Reading} {taken : List Argument}
    (h : takeAll r taken = .ok (.run settings)) : settings.program.isSome = true := by
  fun_induction takeAll r taken with
  | case2 r hprogram =>
      cases h
      rw [Option.isNone_iff_eq_none] at hprogram
      exact Option.isSome_iff_ne_none.mpr hprogram
  | case7 r attached rest ih | case8 r speed rest ih =>
      obtain ⟨speed, -, hrest⟩ := exists_of_bind_eq_ok h
      exact ih speed hrest
  | case10 r width height rest ih =>
      obtain ⟨width, -, hrest⟩ := exists_of_bind_eq_ok h
      obtain ⟨height, -, hrest⟩ := exists_of_bind_eq_ok hrest
      exact ih width height hrest
  | case1 | case3 | case4 | case5 | case6 | case9 | case11 | case12 => cases h
  | case13 r flag rest _ _ _ _ _ ih => exact ih h
  | case14 r text rest ih | case17 r rest _ ih => exact ih h
  | case15 r text rest _ ih | case16 r text rest _ ih | case18 r text rest _ ih
  | case19 r text rest _ ih | case20 r text rest _ _ ih | case21 r text rest _ _ ih => exact ih h

theorem program_of_parse (h : parse arguments = .ok (.run settings)) :
    ∃ path, settings.program = some path := by
  obtain ⟨classified, -, htaken⟩ := exists_of_bind_eq_ok h
  exact Option.isSome_iff_exists.mp (program_of_takeAll htaken)

/-! ### Every ending -/

open Window (consoleFor framesFor)

/-- What an outcome tells of a run with something at the path of the program. -/
structure Settled (settings : WindowSettings) (found : Finding) (host : Host) (d : Diagnostics)
    (o : Outcome) : Prop where
  ending : o.ending = .returned 0 ∨ o.ending = .exited 1
  /-- The run fails if there is no file at the path, if the file is too short or too long, or if
  a step of a frame faults. -/
  exited_iff : o.ending = .exited 1 ↔
    (∀ content, found ≠ .file content) ∨ ∃ content, found = .file content ∧
      (content.size < 1 ∨ 3584 < content.size ∨
        ∃ c ∈ framesFor settings host d content, ∃ fault k q, c.CutAt k fault q)
  /-- It fails with the message of an error that is foreseen, -/
  complaint : o.ending = .exited 1 → ∃ e : WindowError, e.foreseen = true ∧
    o.errorOutput = programName ++ ": " ++ e.message ++ "\n"
  /-- and if that is a fault, the message begins as the first kind says that takes the fault. -/
  kind : ∀ content before c after fault k q, found = .file content →
    FitsProgramSpace content → framesFor settings host d content = before ++ c :: after →
    (∀ c' ∈ before, ∀ fault k q, ¬ c'.CutAt k fault q) → c.CutAt k fault q →
    ∃ kind, (faultKinds.find? fun kind => kind.1 fault) = some kind ∧
      o.errorOutput = programName ++ ": " ++ (kind.2 ++ fault.message) ++ "\n"
  /-- Without a program that fits nothing is started, -/
  untouched : (∀ content, found = .file content → ¬ FitsProgramSpace content) →
    o.calls = host.calls.toList
  /-- and with one everything that was started is shut down, once and last. -/
  cleared : ∀ content, found = .file content → FitsProgramSpace content → ∃ between,
    o.calls = host.calls.toList ++ [.startUp] ++ between ++ [.shutDown] ∧
      HostCall.startUp ∉ between ∧ HostCall.shutDown ∉ between

theorem ofWindow_of_ok {o : Window.Outcome} {h : Host} (hresult : o.result = .ok ())
    (hhost : o.host = some h) :
    ofWindow o = ⟨.returned 0, o.diagnostics.text, "", h.calls.toList⟩ := by
  rw [ofWindow, hresult, hhost]
  rfl

theorem ofWindow_of_foreseen {o : Window.Outcome} {h : Host} {e : WindowError}
    (hresult : o.result = .error e) (he : e.foreseen = true) (hhost : o.host = some h) :
    ofWindow o = ⟨.exited 1, o.diagnostics.text, programName ++ ": " ++ e.message ++ "\n",
      h.calls.toList⟩ := by
  rw [ofWindow, hresult, hhost]
  exact if_pos he

theorem settled_of_error {found : Finding} {e : WindowError} (he : e.foreseen = true)
    (hnone : ∀ content, found = .file content → ¬ FitsProgramSpace content)
    (diagnostics : Diagnostics) :
    Settled settings found host d (ofWindow ⟨.error e, some host, none, diagnostics⟩) := by
  rw [ofWindow_of_foreseen rfl he rfl]
  refine ⟨.inr rfl, ?_, fun _ => ⟨e, he, rfl⟩, ?_, fun _ => rfl, ?_⟩
  · refine iff_of_true rfl ?_
    by_cases hfile : ∃ content, found = .file content
    · obtain ⟨content, hcontent⟩ := hfile
      have hunfit := hnone content hcontent
      unfold FitsProgramSpace maxProgramSize memorySize programStart at hunfit
      refine .inr ⟨content, hcontent, ?_⟩
      omega
    · exact .inl (not_exists.mp hfile)
  · intro content _ _ _ _ _ _ hcontent hfit
    exact absurd hfit (hnone content hcontent)
  · intro content hcontent hfit
    exact absurd hfit (hnone content hcontent)

theorem settled_of_fit {content : Array UInt8} (hsilent : settings.sound = false)
    (hload : Window.load settings find host d = .ok (consoleFor settings host d content))
    (hfit : FitsProgramSpace content) :
    Settled settings (.file content) host d
      (ofWindow (Window.run settings find (some host) d)) := by
  obtain ⟨hresult, h, between, hhost, hcalls, hstart, hstop⟩ := Window.run_of_silent hsilent hload
  have huntouched : (∀ content', Finding.file content = .file content' →
      ¬ FitsProgramSpace content') → h.calls.toList = host.calls.toList := by
    intro hnone
    exact absurd hfit (hnone content rfl)
  have hcleared : ∀ content', Finding.file content = .file content' →
      FitsProgramSpace content' → ∃ between,
        h.calls.toList = host.calls.toList ++ [.startUp] ++ between ++ [.shutDown] ∧
          HostCall.startUp ∉ between ∧ HostCall.shutDown ∉ between := by
    intro _ _ _
    exact ⟨between, hcalls, hstart, hstop⟩
  have hsize := hfit
  unfold FitsProgramSpace maxProgramSize memorySize programStart at hsize
  cases hfault : (consoleFor settings host d content).firstFault (Window.script host.batches) with
  | none =>
      have hwhole := Console.firstFault_eq_none_iff.mp hfault
      rw [hfault] at hresult
      rw [ofWindow_of_ok hresult hhost]
      have hreturned : ¬ Ending.returned 0 = Ending.exited 1 := by
        intro hexit
        cases hexit
      refine ⟨.inl rfl, ?_, fun hexit => absurd hexit hreturned, ?_, huntouched, hcleared⟩
      · refine iff_of_false hreturned ?_
        rintro (hnone | ⟨content', hcontent, hshort | hlong | ⟨c, hc, fault, k, q, hcut⟩⟩)
        · exact hnone content rfl
        · cases hcontent
          omega
        · cases hcontent
          omega
        · cases hcontent
          exact hwhole c hc fault k q hcut
      · intro content' before c after fault k q hcontent _ hframes _ hcut
        cases hcontent
        refine absurd hcut (hwhole c ?_ fault k q)
        rw [← Window.framesFor, hframes]
        exact List.mem_append_cons_self
  | some fault =>
      rw [hfault] at hresult
      rw [ofWindow_of_foreseen hresult rfl hhost]
      refine ⟨.inr rfl, ?_, fun _ => ⟨_, rfl, rfl⟩, ?_, huntouched, hcleared⟩
      · refine iff_of_true rfl (.inr ⟨content, rfl, .inr (.inr ?_)⟩)
        obtain ⟨before, c, after, hframes, ⟨k, q, hcut⟩, -⟩ :=
          Console.firstFault_eq_some_iff.mp hfault
        refine ⟨c, ?_, fault, k, q, hcut⟩
        rw [Window.framesFor, hframes]
        exact List.mem_append_cons_self
      · intro content' before c after fault' k q hcontent _ hframes hbefore hcut
        cases hcontent
        have hsame := Console.firstFault_eq_some_iff.mpr
          ⟨before, c, after, hframes, ⟨k, q, hcut⟩, hbefore⟩
        rw [hfault] at hsame
        obtain rfl := Option.some.inj hsame
        obtain ⟨kind, hkind, htext⟩ := Option.map_eq_some_iff.mp (WindowError.faultKind_eq fault)
        refine ⟨kind, hkind, ?_⟩
        rw [htext]
        rfl

/--
**Every run comes to one of two ends.**  If arguments can be read, if they ask for no sound and if
speed and window size make sense, a run with something at the path of its program either
succeeds or fails with a message that is foreseen; it fails exactly if there is no program that
fits or if a frame is cut; and it shuts down whatever it has started.
-/
theorem run_settled (find : FilePath → Finding) (host : Host) (d : Diagnostics)
    (hparse : parse arguments = .ok (.run settings)) (hsilent : settings.sound = false)
    (hspeed : 0 ≤ settings.clockSpeed) (hwidth : 0 < settings.width)
    (hheight : 0 < settings.height) :
    ∃ path, settings.program = some path ∧ ((find path).isPresent = true →
      Settled settings (find path) host d (run arguments find (some host) d)) := by
  obtain ⟨path, hpath⟩ := program_of_parse hparse
  refine ⟨path, hpath, ?_⟩
  intro hpresent
  have hnone : settingsError? settings find = none := by
    have hfilter : (settings.program.filter fun path => !(find path).isPresent) = none := by
      rw [hpath, Option.filter_some, hpresent]
      rfl
    rw [settingsError?, hfilter]
    dsimp only
    rw [if_neg (by omega), if_neg (by omega)]
  have hrun : run arguments find (some host) d
      = ofWindow (Window.run settings find (some host) d) := by
    rw [run, hparse]
    dsimp only
    rw [hnone]
  rw [hrun]
  by_cases hfile : ∃ content, find path = .file content ∧ FitsProgramSpace content
  · obtain ⟨content, hcontent, hfit⟩ := hfile
    rw [hcontent]
    refine settled_of_fit hsilent ?_ hfit
    exact Window.load_eq_ok_iff.mpr ⟨path, content, hpath, hcontent, hfit, hspeed, rfl⟩
  · cases hload : Window.load settings find host d with
    | ok console =>
        obtain ⟨path', content, hpath', hcontent, hfit, -, -⟩ :=
          Window.load_eq_ok_iff.mp hload
        obtain rfl := Option.some.inj (hpath.symm.trans hpath')
        exact absurd ⟨content, hcontent, hfit⟩ hfile
    | error e =>
        rw [Window.run_of_error hload]
        refine settled_of_error (Window.foreseen_of_load hspeed hload) ?_ _
        intro content hcontent hfit
        exact hfile ⟨content, hcontent, hfit⟩

/-- A program whose first instruction is none. -/
def broken : Array UInt8 := #[0xFF, 0xFF]

theorem fits_broken : FitsProgramSpace broken := by decide

theorem cutAt_broken (host : Host) (d : Diagnostics) : ∃ q,
    (consoleFor Window.slowSettings host d broken).CutAt 0 (.illegal 0xFFFF 0x200) q := by
  let p := (consoleFor Window.slowSettings host d broken).processor
  have hopcode : p.opcode = 0xFFFF :=
    Processor.opcode_of_image fits_broken rfl (k := 0) rfl (by decide)
  have hf : p.Fetches := Processor.fetches_of_image fits_broken rfl (k := 0) rfl (by decide)
  have hl : p.table.lookup p.opcode = none := by
    rw [hopcode]
    rfl
  have hstep := Processor.step_of_lookup_none rfl hf hl
  rw [hopcode] at hstep
  have hframe : 0 < (⟨60, Window.frameRate⟩ : Clock).perFrame := by decide
  exact ⟨_, hframe, p, none, .refl p, hstep⟩

/-- Arguments that ask for no sound and for one instruction in each frame. -/
def slowArguments : List String :=
  ["--clock-speed", "60", "--no-sound", "clearing", "--window-size", "64", "32"]

/-- What comes of the program that is none. -/
def brokenOutcome : Outcome :=
  run slowArguments (fun _ => .file broken) (some (Window.plainHost [])) (.start none)

/-- The program is told to hold an invalid instruction, and the window is closed. -/
theorem run_settled_broken :
    parse slowArguments = .ok (.run Window.slowSettings) ∧ brokenOutcome.ending = .exited 1 ∧
      brokenOutcome.errorOutput = "run.py: " ++ ("ROM contains invalid instructions: "
        ++ (Fault.illegal 0xFFFF 0x200).message) ++ "\n" ∧
      ∃ between, brokenOutcome.calls = [.startUp] ++ between ++ [.shutDown] := by
  have hparse : parse slowArguments = .ok (.run Window.slowSettings) := rfl
  obtain ⟨path, -, hsettled⟩ := run_settled (fun _ => .file broken) (Window.plainHost [])
    (.start none) hparse rfl (by decide) (by decide) (by decide)
  have hbroken : Settled Window.slowSettings (.file broken) (Window.plainHost []) (.start none)
      brokenOutcome := hsettled rfl
  obtain ⟨q, hcut⟩ := cutAt_broken (Window.plainHost []) (.start none)
  have hframes : framesFor Window.slowSettings (Window.plainHost []) (.start none) broken
      = [] ++ consoleFor Window.slowSettings (Window.plainHost []) (.start none) broken :: [] := rfl
  obtain ⟨kind, hkind, htext⟩ := hbroken.kind broken [] _ [] _ 0 q rfl fits_broken hframes
    (List.forall_mem_nil _) hcut
  obtain rfl := Option.some.inj hkind
  obtain ⟨between, hcalls, -, -⟩ := hbroken.cleared broken rfl fits_broken
  refine ⟨hparse, ?_, htext, between, hcalls⟩
  refine hbroken.exited_iff.mpr (.inr ⟨broken, rfl, .inr (.inr ?_)⟩)
  refine ⟨_, ?_, _, _, _, hcut⟩
  rw [hframes]
  exact List.mem_singleton_self _

end CommandLine

end Chip8
