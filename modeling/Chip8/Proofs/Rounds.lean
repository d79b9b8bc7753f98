/-
How the rounds of a window go.

A round hands the events of a batch to the console, runs a frame and then turns to the
speaker and the screen.  Neither of the two touches the console again, apart from the note
that the screen was shown, so the consoles of a run are those that its script makes.

`Ends` lists how a round can end and which calls the host then has received.  The rounds
that are gone are the `laps`; `rounds_eq` tells that `rounds` goes just these, and whatever a
completed round preserves holds at the start of them all (`lap_of_mem_laps`).
-/
import Chip8.Proofs.Script

namespace Chip8

/-! ### Calls that a host receives -/

namespace Host

/-- Whether a host has received nothing but calls of some kind since another time. -/
def Adds (kind : HostCall → Prop) (h h' : Host) : Prop :=
  ∃ calls, (∀ call ∈ calls, kind call) ∧ h'.calls.toList = h.calls.toList ++ calls

variable {kind : HostCall → Prop} {h h' h'' : Host}

theorem Adds.refl (h : Host) : Adds kind h h := by
  refine ⟨[], ?_, (List.append_nil _).symm⟩
  intro call hcall
  cases hcall

theorem Adds.trans (hfirst : Adds kind h h') (hsecond : Adds kind h' h'') : Adds kind h h'' := by
  obtain ⟨first, hkind, hcalls⟩ := hfirst
  obtain ⟨second, hkind', hcalls'⟩ := hsecond
  refine ⟨first ++ second, ?_, ?_⟩
  · intro call hcall
    rcases List.mem_append.mp hcall with hcall | hcall
    · exact hkind call hcall
    · exact hkind' call hcall
  · rw [hcalls', hcalls, List.append_assoc]

theorem toList_call (h : Host) (c : HostCall) : (h.call c).calls.toList = h.calls.toList ++ [c] :=
  Array.toList_push

theorem Adds.call (hadds : Adds kind h h') {c : HostCall} (hc : kind c) :
    Adds kind h (h'.call c) := by
  refine hadds.trans ⟨[c], ?_, toList_call h' c⟩
  intro call hcall
  obtain rfl := List.mem_singleton.mp hcall
  exact hc

end Host

/-- Whether a call is one that a speaker makes while it goes on and off. -/
def HostCall.OfSpeaker : HostCall → Prop
  | .makeSound _ | .findChannel _ _ | .play _ | .setVolume _ | .stopChannel => True
  | _ => False

namespace Speaker

open Host (Adds)

theorem adds_stop (s : Speaker) (h : Host) : Adds HostCall.OfSpeaker h (s.stop h).2 := by
  rw [stop]
  cases s.granted && s.playing with
  | false => exact .refl h
  | true =>
      refine (Adds.refl h).call ?_
      trivial

theorem adds_build {s s' : Speaker} {h h' : Host} (hb : s.build h = .ok (s', h')) :
    Adds HostCall.OfSpeaker h h' := by
  unfold build at hb
  cases hbuilt : s.built with
  | true =>
      rw [hbuilt] at hb
      cases hb
      exact .refl h
  | false =>
      rw [hbuilt] at hb
      cases hsamples : Tone.samples s.rate s.frequency Tone.standardAmplitude with
      | error e =>
          rw [hsamples] at hb
          cases hb
      | ok samples =>
          rw [hsamples] at hb
          cases hb
          refine (Adds.refl h).call ?_
          trivial

theorem adds_obtainChannel (s : Speaker) (h : Host) :
    Adds HostCall.OfSpeaker h (s.obtainChannel h).2 := by
  rw [obtainChannel]
  cases s.granted with
  | true => exact .refl h
  | false =>
      refine Adds.call ?_ ?_
      · exact .refl h
      · trivial

theorem adds_play (s : Speaker) (h : Host) : Adds HostCall.OfSpeaker h (s.play h).2 := by
  rw [play]
  cases s.granted with
  | false => exact .refl h
  | true =>
      refine Adds.call (Adds.call (.refl h) ?_) ?_
      · trivial
      · trivial

theorem adds_set {s s' : Speaker} {h h' : Host} {on : Bool} (hset : s.set on h = .ok (s', h')) :
    Adds HostCall.OfSpeaker h h' := by
  cases on with
  | false =>
      cases hset
      exact s.adds_stop h
  | true =>
      change s.start h = .ok (s', h') at hset
      unfold start at hset
      cases hplaying : s.playing with
      | true =>
          rw [hplaying] at hset
          cases hset
          exact .refl h
      | false =>
          rw [hplaying] at hset
          cases hbuild : s.build h with
          | error e =>
              rw [hbuild] at hset
              cases hset
          | ok built =>
              rw [hbuild] at hset
              have hplay := congrArg Prod.snd (Except.ok.inj hset)
              rw [← show _ = h' from hplay]
              exact ((adds_build hbuild).trans (adds_obtainChannel _ _)).trans (adds_play _ _)

end Speaker

/-- Whether a call is one that rounds without sound make. -/
def HostCall.OfRound : HostCall → Prop
  | .takePicture _ | .scalePicture _ _ | .placePicture _ _ | .showWindow | .waitForFrame _ => True
  | _ => False

theorem Processor.acknowledge_of_shown {p : Processor} (h : p.redraw = false) :
    p.acknowledge = p := by
  cases p
  cases h
  rfl

namespace Window

variable {settings : WindowSettings} {s t : State} {events : List HostEvent}
  {batches rest : List (List HostEvent)}

/-! ### Events -/

/-- An event reaches nothing but the console, and diagnostics. -/
theorem handleEvent_spec (s : State) (event : HostEvent) :
    (handleEvent s event).console = s.console.attend event ∧
      (handleEvent s event).host = s.host ∧ (handleEvent s event).speaker = s.speaker := by
  have hkey : ∀ name down, (handleKey s name down).console = s.console.key name down ∧
      (handleKey s name down).host = s.host ∧ (handleKey s name down).speaker = s.speaker := by
    intro name down
    unfold handleKey Console.key
    cases Keypad.ofName? name with
    | none => exact ⟨rfl, rfl, rfl⟩
    | some key => exact ⟨rfl, rfl, rfl⟩
  cases event with
  | quit | other => exact ⟨rfl, rfl, rfl⟩
  | keyUp name => exact hkey name false
  | keyDown name =>
    by_cases hescape : (name == "escape") = true
    · -- The escape key is not on the keypad, so quitting by it leaves the keypad alone.
      obtain rfl : name = "escape" := by simpa using hescape
      exact ⟨rfl, rfl, rfl⟩
    · rw [handleEvent, wantsQuit, if_neg hescape]
      exact hkey name true

theorem handleEvents_spec (s : State) (events : List HostEvent) :
    (events.foldl handleEvent s).console = events.foldl Console.attend s.console ∧
      (events.foldl handleEvent s).host = s.host ∧
      (events.foldl handleEvent s).speaker = s.speaker := by
  induction events generalizing s with
  | nil => exact ⟨rfl, rfl, rfl⟩
  | cons event rest ih =>
      obtain ⟨hconsole, hhost, hspeaker⟩ := handleEvent_spec s event
      obtain ⟨hconsole', hhost', hspeaker'⟩ := ih (handleEvent s event)
      rw [List.foldl_cons, List.foldl_cons, hconsole', hhost', hspeaker', hconsole]
      exact ⟨rfl, hhost, hspeaker⟩

/-! ### The ways a round ends -/

/-- The calls by which a screen is shown. -/
def presenting (settings : WindowSettings) (screen : Screen) : List HostCall :=
  [.takePicture (Picture.ofScreen Palette.monochrome 1 screen),
    .scalePicture settings.width settings.height, .placePicture 0 0, .showWindow]

/-- How a round ends after its events, and what it leaves. -/
inductive Ends (settings : WindowSettings) (s : State) : Except WindowError Unit → State → Prop
  | faulted {fault : Fault} {t : State} (h : s.console.runFrame.outcome = .error fault)
      (hconsole : t.console = s.console.runFrame.console) (hhost : t.host = s.host)
      (hspeaker : t.speaker = s.speaker) :
      Ends settings s (.error (.faulted fault)) t
  | noTone {n : Nat} {e : ToneError} {t : State} (h : s.console.runFrame.outcome = .ok n)
      (hspeaker : s.speaker ≠ none) (hconsole : t.console = s.console.runFrame.console) :
      Ends settings s (.error (.noTone e)) t
  | completed {n : Nat} {sounds : List HostCall} {t : State}
      (h : s.console.runFrame.outcome = .ok n) (hsounds : ∀ call ∈ sounds, call.OfSpeaker)
      (hsilent : s.speaker = none → sounds = [] ∧ t.speaker = none)
      (hconsole : t.console = s.console.shown)
      (hcalls : t.host.calls.toList = s.host.calls.toList ++ sounds
        ++ (if s.console.runFrame.console.processor.redraw then
              presenting settings s.console.runFrame.console.processor.screen else [])
        ++ [.waitForFrame frameRate]) :
      Ends settings s (.ok ()) t

/-- The speaker leaves the console alone, and no sound is no call. -/
theorem updateSound_ok (h : updateSound s = .ok t) :
    t.console = s.console ∧ s.host.Adds HostCall.OfSpeaker t.host ∧
      (s.speaker = none → t = s) := by
  unfold updateSound at h
  cases hspeaker : s.speaker with
  | none =>
      rw [hspeaker] at h
      cases h
      exact ⟨rfl, .refl _, fun _ => rfl⟩
  | some speaker =>
      rw [hspeaker] at h
      dsimp only at h
      cases hset : speaker.set s.console.sounding s.host with
      | error e =>
          rw [hset] at h
          cases h
      | ok after =>
          rw [hset] at h
          cases h
          exact ⟨rfl, Speaker.adds_set hset, fun hnone => nomatch hnone⟩

theorem speaker_of_updateSound_error {e : ToneError} (h : updateSound s = .error e) :
    s.speaker ≠ none := by
  intro hnone
  rw [updateSound, hnone] at h
  cases h

theorem presentIfDrawn_spec (settings : WindowSettings) (s : State) :
    (presentIfDrawn settings s).console
        = { s.console with processor := s.console.processor.acknowledge } ∧
      (presentIfDrawn settings s).speaker = s.speaker ∧
      (presentIfDrawn settings s).host.calls.toList = s.host.calls.toList
        ++ if s.console.processor.redraw then presenting settings s.console.processor.screen
          else [] := by
  unfold presentIfDrawn
  cases hredraw : s.console.processor.redraw with
  | false =>
      rw [Processor.acknowledge_of_shown hredraw]
      exact ⟨rfl, rfl, (List.append_nil _).symm⟩
  | true =>
      refine ⟨rfl, rfl, ?_⟩
      show (Host.call (Host.call (Host.call (Host.call s.host _) _) _) _).calls.toList = _
      rw [Host.toList_call, Host.toList_call, Host.toList_call, Host.toList_call]
      simp only [List.append_assoc]
      rfl

theorem showHistory_spec (s : State) : (showHistory s).console = s.console ∧
    (showHistory s).host = s.host ∧ (showHistory s).speaker = s.speaker := by
  unfold showHistory
  cases s.console.history with
  | none => exact ⟨rfl, rfl, rfl⟩
  | some history => exact ⟨rfl, rfl, rfl⟩

/-- The state after the frame of a round. -/
def framed (s : State) : State :=
  { s with
    console := s.console.runFrame.console
    diagnostics := s.diagnostics.logSteps s.console.runFrame.records }

theorem runFrame_eq (s : State) : runFrame s = (s.console.runFrame.outcome, framed s) := rfl

/-- **A round ends in one of the ways listed.** -/
theorem ends_finishRound (settings : WindowSettings) (s : State) :
    Ends settings s (finishRound settings s).1 (finishRound settings s).2 := by
  rw [finishRound, runFrame_eq]
  cases houtcome : s.console.runFrame.outcome with
  | error fault =>
      obtain ⟨hconsole, hhost, hspeaker⟩ := showHistory_spec (framed s)
      exact .faulted houtcome hconsole hhost hspeaker
  | ok n =>
      dsimp only
      cases hsound : updateSound (framed s) with
      | error e =>
          have hspeaker := speaker_of_updateSound_error hsound
          exact .noTone houtcome hspeaker rfl
      | ok heard =>
          obtain ⟨hconsole, ⟨sounds, hsounds, hcalls⟩, hsilent⟩ := updateSound_ok hsound
          obtain ⟨hshown, hspeaker, hpresented⟩ := presentIfDrawn_spec settings heard
          rw [hconsole] at hshown
          refine .completed houtcome hsounds ?_ hshown ?_
          · intro hnone
            have hheard := hsilent hnone
            rw [hheard] at hcalls
            refine ⟨List.append_right_eq_self.mp hcalls.symm, ?_⟩
            refine hspeaker.trans ?_
            rw [hheard]
            exact hnone
          · rw [hconsole, hcalls] at hpresented
            show (Host.call _ _).calls.toList = _
            rw [Host.toList_call]
            exact congrArg (· ++ [HostCall.waitForFrame frameRate]) hpresented

/-- A round ends well unless its frame is cut or the tone cannot be made. -/
theorem Ends.result_of {result : Except WindowError Unit} (h : Ends settings s result t)
    (hframe : ∀ fault, s.console.runFrame.outcome ≠ .error fault)
    (htone : ∀ e, result ≠ .error (.noTone e)) : result = .ok () := by
  cases h with
  | faulted h => exact absurd h (hframe _)
  | noTone => exact absurd rfl (htone _)
  | completed => rfl

/-! ### The rounds that are gone -/

/-- A round: the events it takes, the state just before its frame, how it ends and in what. -/
structure Lap where
  events : List HostEvent
  ready : State
  result : Except WindowError Unit
  after : State

/-- The round that takes some events. -/
def lap (settings : WindowSettings) (events : List HostEvent) (s : State) : Lap where
  events := events
  ready := events.foldl handleEvent s
  result := (round settings events s).1
  after := (round settings events s).2

/-- The rounds that are gone, the first one first. -/
def laps (settings : WindowSettings) : List (List HostEvent) → State → List Lap
  | [], s => [lap settings [.quit] s]
  | events :: rest, s =>
    match (lap settings events s).result with
    | .error _ => [lap settings events s]
    | .ok () =>
      if events.any wantsQuit then [lap settings events s]
      else lap settings events s :: laps settings rest (lap settings events s).after

theorem laps_cons_of_error {e : WindowError} (h : (lap settings events s).result = .error e) :
    laps settings (events :: rest) s = [lap settings events s] := by
  rw [laps, h]

theorem laps_cons_of_quit (h : (lap settings events s).result = .ok ())
    (hquit : events.any wantsQuit = true) :
    laps settings (events :: rest) s = [lap settings events s] := by
  rw [laps, h]
  exact if_pos hquit

theorem laps_cons_of_not_quit (h : (lap settings events s).result = .ok ())
    (hquit : events.any wantsQuit = false) :
    laps settings (events :: rest) s
      = lap settings events s :: laps settings rest (lap settings events s).after := by
  rw [laps, h]
  exact if_neg (by simp [hquit])

theorem rounds_cons_of_error {e : WindowError} (h : (lap settings events s).result = .error e) :
    rounds settings (events :: rest) s = (.error e, (lap settings events s).after) := by
  change (round settings events s).1 = .error e at h
  show rounds settings (events :: rest) s = (.error e, (round settings events s).2)
  rw [rounds]
  generalize round settings events s = ended at h ⊢
  obtain ⟨result, after⟩ := ended
  subst h
  rfl

theorem rounds_cons_of_ok (h : (lap settings events s).result = .ok ()) :
    rounds settings (events :: rest) s
      = if events.any wantsQuit then (.ok (), (lap settings events s).after)
        else rounds settings rest (lap settings events s).after := by
  change (round settings events s).1 = .ok () at h
  show rounds settings (events :: rest) s
      = if events.any wantsQuit then (.ok (), (round settings events s).2)
        else rounds settings rest (round settings events s).2
  rw [rounds]
  generalize round settings events s = ended at h ⊢
  obtain ⟨result, after⟩ := ended
  subst h
  rfl

/-- The rounds come to what the last of them comes to. -/
theorem rounds_eq (settings : WindowSettings) (batches : List (List HostEvent)) (s : State) :
    ∃ l, (laps settings batches s).getLast? = some l ∧
      rounds settings batches s = (l.result, l.after) := by
  induction batches generalizing s with
  | nil => exact ⟨lap settings [.quit] s, rfl, rfl⟩
  | cons events rest ih =>
      cases hresult : (lap settings events s).result with
      | error e =>
          rw [laps_cons_of_error hresult, rounds_cons_of_error hresult]
          exact ⟨lap settings events s, rfl, by rw [hresult]⟩
      | ok _ =>
          rw [rounds_cons_of_ok hresult]
          cases hquit : events.any wantsQuit with
          | true =>
              rw [laps_cons_of_quit hresult hquit, if_pos rfl]
              exact ⟨lap settings events s, rfl, by rw [hresult]⟩
          | false =>
              obtain ⟨l, hlast, hrounds⟩ := ih (lap settings events s).after
              rw [laps_cons_of_not_quit hresult hquit, if_neg (by simp), hrounds]
              refine ⟨l, ?_, rfl⟩
              rw [List.getLast?_cons, hlast]
              rfl

/-- What completed rounds preserve holds before each round. -/
theorem lap_of_mem_laps {P : State → Prop}
    (hstep : ∀ s events, P s → (lap settings events s).result = .ok () →
      P (lap settings events s).after)
    (hs : P s) {l : Lap} (hl : l ∈ laps settings batches s) :
    ∃ before, P before ∧ l = lap settings l.events before := by
  induction batches generalizing s with
  | nil =>
      obtain rfl := List.mem_singleton.mp hl
      exact ⟨s, hs, rfl⟩
  | cons events rest ih =>
      cases hresult : (lap settings events s).result with
      | error e =>
          rw [laps_cons_of_error hresult] at hl
          obtain rfl := List.mem_singleton.mp hl
          exact ⟨s, hs, rfl⟩
      | ok _ =>
          cases hquit : events.any wantsQuit with
          | true =>
              rw [laps_cons_of_quit hresult hquit] at hl
              obtain rfl := List.mem_singleton.mp hl
              exact ⟨s, hs, rfl⟩
          | false =>
              rw [laps_cons_of_not_quit hresult hquit] at hl
              rcases List.mem_cons.mp hl with rfl | hl
              · exact ⟨s, hs, rfl⟩
              · exact ih (hstep s events hs hresult) hl

/-! ### What a round leaves -/

theorem ends_lap (settings : WindowSettings) (events : List HostEvent) (s : State) :
    Ends settings (lap settings events s).ready (lap settings events s).result
      (lap settings events s).after :=
  ends_finishRound settings (events.foldl handleEvent s)

theorem ends_of_mem_laps {l : Lap} (hl : l ∈ laps settings batches s) :
    Ends settings l.ready l.result l.after := by
  obtain ⟨before, -, hlap⟩ :=
    lap_of_mem_laps (P := fun _ => True) (fun _ _ _ _ => trivial) trivial hl
  rw [hlap]
  exact ends_lap settings l.events before

theorem console_ready (settings : WindowSettings) (events : List HostEvent) (s : State) :
    (lap settings events s).ready.console = events.foldl Console.attend s.console :=
  (handleEvents_spec s events).1

/-- A completed round has run a whole frame, and the console is as after that frame. -/
theorem console_after (h : (lap settings events s).result = .ok ()) :
    (∃ n, (events.foldl Console.attend s.console).runFrame.outcome = .ok n) ∧
      (lap settings events s).after.console
        = (events.foldl Console.attend s.console).shown := by
  have hends := ends_lap settings events s
  rw [h] at hends
  cases hends with
  | completed houtcome _ _ hconsole _ =>
      rw [console_ready] at houtcome hconsole
      exact ⟨⟨_, houtcome⟩, hconsole⟩

/-- **Rounds that end well are one for each batch of the script**, and nothing but the script
decides what the console is before each frame. -/
theorem laps_of_ok (h : (rounds settings batches s).1 = .ok ()) :
    (laps settings batches s).map Lap.events = script batches ∧
      (laps settings batches s).map (·.ready.console) = s.console.played (script batches) ∧
      ∀ l ∈ laps settings batches s, l.result = .ok () := by
  induction batches generalizing s with
  | nil =>
      rw [script_nil, Console.played, Console.played, ← console_ready settings]
      refine ⟨rfl, rfl, ?_⟩
      intro l hl
      obtain rfl := List.mem_singleton.mp hl
      exact h
  | cons events rest ih =>
      cases hresult : (lap settings events s).result with
      | error e =>
          rw [rounds_cons_of_error hresult] at h
          cases h
      | ok _ =>
          rw [rounds_cons_of_ok hresult] at h
          cases hquit : events.any wantsQuit with
          | true =>
              rw [laps_cons_of_quit hresult hquit, script_cons_of_quit hquit, Console.played,
                Console.played, ← console_ready settings]
              refine ⟨rfl, rfl, ?_⟩
              intro l hl
              obtain rfl := List.mem_singleton.mp hl
              exact hresult
          | false =>
              rw [hquit, if_neg (by simp)] at h
              obtain ⟨hevents, hplayed, hall⟩ := ih h
              rw [laps_cons_of_not_quit hresult hquit, script_cons_of_not_quit hquit,
                Console.played, List.map_cons, List.map_cons, hevents, hplayed,
                (console_after hresult).2, console_ready]
              refine ⟨rfl, rfl, ?_⟩
              intro l hl
              rcases List.mem_cons.mp hl with rfl | hl
              · exact hresult
              · exact hall l hl

/-- Rounds that end well count as many frames. -/
theorem frames_of_ok (h : (rounds settings batches s).1 = .ok ()) :
    (rounds settings batches s).2.console.frames
      = s.console.frames + (script batches).length := by
  have hframes : ∀ (events : List HostEvent) (s : State),
      (lap settings events s).result = .ok () →
      (lap settings events s).after.console.frames = s.console.frames + 1 := by
    intro events s hresult
    obtain ⟨⟨n, houtcome⟩, hconsole⟩ := console_after hresult
    obtain ⟨keypad, hkeypad⟩ := Console.attend_eq s.console events
    rw [hconsole, Console.shown, (Console.whole_of_ok houtcome).frames, hkeypad]
  induction batches generalizing s with
  | nil => exact hframes [.quit] s h
  | cons events rest ih =>
      cases hresult : (lap settings events s).result with
      | error e =>
          rw [rounds_cons_of_error hresult] at h
          cases h
      | ok _ =>
          rw [rounds_cons_of_ok hresult] at h ⊢
          cases hquit : events.any wantsQuit with
          | true =>
              rw [if_pos rfl, script_cons_of_quit hquit]
              exact hframes events s hresult
          | false =>
              rw [hquit, if_neg (by simp)] at h
              rw [if_neg (by simp), script_cons_of_not_quit hquit, ih h, hframes events s hresult,
                List.length_cons, Nat.add_assoc, Nat.add_comm 1]

/-! ### Rounds without sound -/

/-- How rounds end with the first fault in them, if there is one. -/
def endOf : Option Fault → Except WindowError Unit
  | none => .ok ()
  | some fault => .error (.faulted fault)

/-- A round without sound ends as its frame does. -/
theorem Ends.of_silent {result : Except WindowError Unit} (h : Ends settings s result t)
    (hspeaker : s.speaker = none) :
    result = endOf s.console.fault? ∧ t.speaker = none ∧
      s.host.Adds HostCall.OfRound t.host := by
  cases h with
  | faulted hfault hconsole hhost hspeaker' =>
      rw [Console.fault?, hfault, hhost, hspeaker']
      exact ⟨rfl, hspeaker, .refl _⟩
  | noTone _ hspeaker' => exact absurd hspeaker hspeaker'
  | completed hok hsounds hsilent hconsole hcalls =>
      obtain ⟨rfl, hnone⟩ := hsilent hspeaker
      rw [List.append_nil, List.append_assoc] at hcalls
      rw [Console.fault?, hok]
      refine ⟨rfl, hnone, _, ?_, hcalls⟩
      intro call hcall
      rcases List.mem_append.mp hcall with hcall | hcall
      · by_cases hredraw : s.console.runFrame.console.processor.redraw = true
        · rw [if_pos hredraw, presenting] at hcall
          simp only [List.mem_cons, List.not_mem_nil, or_false] at hcall
          rcases hcall with rfl | rfl | rfl | rfl
          all_goals trivial
        · rw [if_neg hredraw] at hcall
          cases hcall
      · obtain rfl := List.mem_singleton.mp hcall
        trivial

theorem lap_of_silent (settings : WindowSettings) (events : List HostEvent)
    (hspeaker : s.speaker = none) :
    (lap settings events s).result = endOf (events.foldl Console.attend s.console).fault? ∧
      (lap settings events s).after.speaker = none ∧
      s.host.Adds HostCall.OfRound (lap settings events s).after.host := by
  obtain ⟨hconsole, hhost, hspeaker'⟩ := handleEvents_spec s events
  have hsilent := (ends_lap settings events s).of_silent (hspeaker'.trans hspeaker)
  rw [console_ready, show (lap settings events s).ready.host = s.host from hhost] at hsilent
  exact hsilent

end Window

end Chip8
