/-
Speakers keep to the protocol.

Whatever a speaker is asked for, it goes from one stage of the protocol to the next (`serves`),
so its exchanges follow a path through the stages.

A window turns its speaker on or off once in a round and shuts it down when it closes, whatever
the rounds came to, and none of its own calls turns the tone on or off.  So the tone is off when
a window has been closed (`heard_run`).
-/
import Chip8.Proofs.Protocol
import Chip8.Proofs.Runs

namespace Chip8

open HostCall

namespace Speaker

/-! ### A speaker goes through the stages -/

/-- Whether a speaker holds what a stage says. -/
structure At (s : Speaker) (t : Stage) : Prop where
  built : s.built = t.built
  granted : s.granted = t.granted
  playing : s.playing = t.plays

theorem calls_findChannel (h : Host) :
    h.findChannel.2.calls.toList = h.calls.toList ++ [.findChannel true h.findChannel.1] :=
  Host.toList_call _ _

variable {s s' : Speaker} {h h' : Host} {t : Stage} {request : Request}

/-- Obtains a channel and starts the tone. -/
def voice (s : Speaker) (h : Host) : Speaker × Host :=
  (s.obtainChannel h).1.play (s.obtainChannel h).2

/-- What a request comes to. -/
structure Serves (s : Speaker) (h : Host) (t : Stage) (request : Request) : Prop where
  step : ∃ t', t.Step (s.exchange h request) t' ∧ (s.serve h request).1.At t'
  calls : (s.serve h request).2.calls.toList = h.calls.toList ++ (s.exchange h request).calls
  rate : (s.serve h request).1.rate = s.rate
  frequency : (s.serve h request).1.frequency = s.frequency
  /-- A request is refused only if there is no tone. -/
  refused : ∀ e, s.answer h request = .error e →
    Tone.samples s.rate s.frequency Tone.standardAmplitude = .error e

theorem exchange_eq {calls : List HostCall}
    (hcalls : (s.serve h request).2.calls.toList = h.calls.toList ++ calls) :
    s.exchange h request = ⟨request, s.answer h request, calls⟩ := by
  rw [exchange, hcalls, List.drop_left]

/-- A request that is met, from what it leaves. -/
theorem Serves.of_set {on : Bool} {t' : Stage} {calls : List HostCall}
    (hset : s.set on h = .ok (s', h')) (hcalls : h'.calls.toList = h.calls.toList ++ calls)
    (hstep : t.Step ⟨.set on, .ok (), calls⟩ t') (hat : s'.At t') (hrate : s'.rate = s.rate)
    (hfrequency : s'.frequency = s.frequency) : s.Serves h t (.set on) := by
  have hserve : s.serve h (.set on) = (s', h') := by rw [serve, hset]
  have hanswer : s.answer h (.set on) = .ok () := by
    rw [answer, hset]
    rfl
  rw [← show (s.serve h (.set on)).2 = h' from congrArg Prod.snd hserve] at hcalls
  have hexchange := exchange_eq hcalls
  rw [hanswer] at hexchange
  refine ⟨⟨t', ?_, ?_⟩, ?_, ?_, ?_, ?_⟩
  · rwa [hexchange]
  · rwa [hserve]
  · rw [hexchange, hcalls]
  · rwa [hserve]
  · rwa [hserve]
  · intro e he
    rw [hanswer] at he
    cases he

theorem voice_of_granted (hgranted : s.granted = true) (h : Host) :
    s.voice h = ({ s with playing := true }, (h.call (.play (-1))).call (.setVolume s.volume)) := by
  rw [voice, obtainChannel, if_pos hgranted, play, if_pos hgranted]

theorem voice_of_found (hgranted : s.granted = false) (hfound : h.findChannel.1 = true) :
    s.voice h = ({ s with granted := true, playing := true },
      (h.findChannel.2.call (.play (-1))).call (.setVolume s.volume)) := by
  rw [voice, obtainChannel, if_neg (by simp [hgranted])]
  dsimp only
  rw [hfound, play, if_pos rfl]

theorem voice_of_refused (hgranted : s.granted = false) (hfound : h.findChannel.1 = false) :
    s.voice h = ({ s with granted := false }, h.findChannel.2) := by
  rw [voice, obtainChannel, if_neg (by simp [hgranted])]
  dsimp only
  rw [hfound, play, if_neg (by simp)]

theorem set_of_playing (hplaying : s.playing = true) (h : Host) : s.set true h = .ok (s, h) := by
  rw [set, if_pos rfl, start, if_pos hplaying]

theorem set_of_built (hplaying : s.playing = false) (hbuilt : s.built = true) (h : Host) :
    s.set true h = .ok (s.voice h) := by
  rw [set, if_pos rfl, start, if_neg (by simp [hplaying]), build, if_pos hbuilt]
  rfl

theorem set_of_samples {samples : Array Int} (hplaying : s.playing = false)
    (hbuilt : s.built = false)
    (hsamples : Tone.samples s.rate s.frequency Tone.standardAmplitude = .ok samples) (h : Host) :
    s.set true h
      = .ok ({ s with built := true }.voice (h.call (.makeSound (Tone.bytes samples)))) := by
  rw [set, if_pos rfl, start, if_neg (by simp [hplaying]), build, if_neg (by simp [hbuilt]),
    hsamples]
  rfl

theorem set_of_error {e : ToneError} (hplaying : s.playing = false) (hbuilt : s.built = false)
    (hsamples : Tone.samples s.rate s.frequency Tone.standardAmplitude = .error e) (h : Host) :
    s.set true h = .error e := by
  rw [set, if_pos rfl, start, if_neg (by simp [hplaying]), build, if_neg (by simp [hbuilt]),
    hsamples]

/-- Without a channel, and with the tone just made or made before, the host decides. -/
theorem Serves.of_voice (bytes : List UInt8) (hgranted : t.granted = false)
    (hset : s.set true h = .ok (s'.voice h')) (hat : s'.At .tone) (hrate : s'.rate = s.rate)
    (hfrequency : s'.frequency = s.frequency)
    (hcalls : h'.calls.toList = h.calls.toList ++ t.making bytes) : s.Serves h t (.set true) := by
  have hfind := calls_findChannel h'
  cases hfound : h'.findChannel.1 with
  | false =>
      rw [voice_of_refused hat.granted hfound] at hset
      rw [hfound, hcalls, List.append_assoc] at hfind
      exact .of_set hset hfind (.refused t bytes hgranted) ⟨hat.built, rfl, hat.playing⟩ hrate
        hfrequency
  | true =>
      rw [voice_of_found hat.granted hfound] at hset
      rw [hfound, hcalls, List.append_assoc] at hfind
      refine .of_set hset ?_ (.granted t bytes s'.volume hgranted) ⟨hat.built, rfl, rfl⟩ hrate
        hfrequency
      rw [Host.toList_call, Host.toList_call, hfind]
      simp

theorem serves_set_true (hat : s.At t) (h : Host) : s.Serves h t (.set true) := by
  cases t with
  | bare =>
    cases hsamples : Tone.samples s.rate s.frequency Tone.standardAmplitude with
    | ok samples =>
        exact .of_voice (Tone.bytes samples) rfl (set_of_samples hat.playing hat.built hsamples h)
          ⟨rfl, hat.granted, hat.playing⟩ rfl rfl (Host.toList_call h _)
    | error e =>
        have hset := set_of_error hat.playing hat.built hsamples h
        have hserve : s.serve h (.set true) = (s, h) := by rw [serve, hset]
        have hanswer : s.answer h (.set true) = .error e := by
          rw [answer, hset]
          rfl
        have hexchange : s.exchange h (.set true) = ⟨.set true, .error e, []⟩ := by
          have hcalls : (s.serve h (.set true)).2.calls.toList = h.calls.toList ++ [] := by
            rw [hserve, List.append_nil]
          rw [exchange_eq hcalls, hanswer]
        refine ⟨⟨.bare, ?_, ?_⟩, ?_, ?_, ?_, ?_⟩
        · rw [hexchange]
          exact .toneless e
        · rwa [hserve]
        · rw [hexchange, hserve, List.append_nil]
        · rw [hserve]
        · rw [hserve]
        · intro e' he'
          rw [hanswer] at he'
          cases he'
          exact hsamples
  | tone =>
    exact .of_voice [] rfl (set_of_built hat.playing hat.built h) hat rfl rfl
      (List.append_nil _).symm
  | ready =>
    have hset := set_of_built hat.playing hat.built h
    rw [voice_of_granted hat.granted] at hset
    refine .of_set hset ?_ (.resumed s.volume) ⟨hat.built, hat.granted, rfl⟩ rfl rfl
    rw [Host.toList_call, Host.toList_call, List.append_assoc]
    rfl
  | playing =>
    exact .of_set (set_of_playing hat.playing h) (List.append_nil _).symm (.kept .playing) hat rfl
      rfl

/-- A tone that has been refused a channel obtains one as soon as there is one. -/
theorem grants_of_found (hat : s.At .tone) (hfound : h.findChannel.1 = true) :
    (s.exchange h (.set true)).calls.any grants = true := by
  have hset := set_of_built hat.playing hat.built h
  rw [voice_of_found hat.granted hfound] at hset
  have hcalls : (s.serve h (.set true)).2.calls.toList = h.calls.toList
      ++ [.findChannel true true, .play (-1), .setVolume s.volume] := by
    rw [serve, hset, Host.toList_call, Host.toList_call, calls_findChannel, hfound]
    simp
  rw [exchange_eq hcalls]
  rfl

theorem calls_stop (hat : s.At t) (h : Host) :
    (s.stop h).2.calls.toList = h.calls.toList ++ if t.plays then [.stopChannel] else [] := by
  rw [stop, hat.granted, hat.playing]
  cases t with
  | bare | tone | ready => exact (List.append_nil _).symm
  | playing => exact Host.toList_call h _

theorem serves_set_false (hat : s.At t) (h : Host) : s.Serves h t (.set false) := by
  have hset : s.set false h = .ok ({ s with playing := false }, (s.stop h).2) := rfl
  have hcalls := calls_stop hat h
  cases t with
  | bare => exact .of_set hset hcalls (.kept .bare) ⟨hat.built, hat.granted, rfl⟩ rfl rfl
  | tone => exact .of_set hset hcalls (.kept .tone) ⟨hat.built, hat.granted, rfl⟩ rfl rfl
  | ready => exact .of_set hset hcalls (.kept .ready) ⟨hat.built, hat.granted, rfl⟩ rfl rfl
  | playing => exact .of_set hset hcalls .stopped ⟨hat.built, hat.granted, rfl⟩ rfl rfl

theorem serves_shutDown (hat : s.At t) (h : Host) : s.Serves h t .shutDown := by
  have hcalls : (s.serve h .shutDown).2.calls.toList
      = h.calls.toList ++ if t.plays then [.stopChannel] else [] := calls_stop hat h
  have hexchange := exchange_eq hcalls
  refine ⟨⟨.bare, ?_, ⟨rfl, rfl, rfl⟩⟩, ?_, rfl, rfl, ?_⟩
  · rw [hexchange]
    exact .shutDown t
  · rw [hexchange, hcalls]
  · intro e he
    cases he

/-- **Every request goes from stage to stage.** -/
theorem serves (hat : s.At t) (h : Host) (request : Request) : s.Serves h t request := by
  cases request with
  | set on =>
    cases on with
    | false => exact serves_set_false hat h
    | true => exact serves_set_true hat h
  | shutDown => exact serves_shutDown hat h

theorem requests_exchanges (s : Speaker) (h : Host) (requests : List Request) :
    (s.exchanges h requests).map Exchange.request = requests := by
  induction requests generalizing s h with
  | nil => rfl
  | cons request rest ih => rw [exchanges, List.map_cons, ih, exchange]

/-- Requests follow a path through the stages, and their exchanges are all the calls. -/
theorem exchanges_spec (hat : s.At t) (h : Host) (requests : List Request) :
    (∃ t', t.Path (s.exchanges h requests) t' ∧ (s.serveEach h requests).1.At t') ∧
      (s.serveEach h requests).2.calls.toList
        = h.calls.toList ++ callsOf (s.exchanges h requests) ∧
      ∀ e ∈ s.exchanges h requests, ∀ error, e.answer = .error error →
        Tone.samples s.rate s.frequency Tone.standardAmplitude = .error error := by
  induction requests generalizing s h t with
  | nil => exact ⟨⟨t, .nil t, hat⟩, (List.append_nil _).symm, List.forall_mem_nil _⟩
  | cons request rest ih =>
      have hserves := serves hat h request
      obtain ⟨t', hstep, hat'⟩ := hserves.step
      obtain ⟨⟨t'', hpath, hat''⟩, hcalls, hmade⟩ := ih hat' (s.serve h request).2
      refine ⟨⟨t'', .cons hstep hpath, hat''⟩, ?_, ?_⟩
      · rw [serveEach, hcalls, hserves.calls, exchanges, callsOf_cons, List.append_assoc]
      · rw [exchanges]
        refine List.forall_mem_cons.mpr ⟨hserves.refused, ?_⟩
        intro e he error herror
        rw [← hserves.rate, ← hserves.frequency]
        exact hmade e he error herror

end Speaker

/-! ### What a host hears of a window -/

/-- Whether some calls turn the tone on and off in turn and leave it as a stage says. -/
structure Heard (calls : List HostCall) (t : Speaker.Stage) : Prop where
  alternate : Alternate false calls
  aloud : PlaysAloud calls
  plays : playsAfter false calls = t.plays

namespace Heard

variable {calls others : List HostCall} {t t' : Speaker.Stage} {e : Speaker.Exchange}

theorem nil : Heard [] .bare := ⟨trivial, trivial, rfl⟩

theorem exchange (h : Heard calls t) (hstep : t.Step e t') : Heard (calls ++ e.calls) t' := by
  obtain ⟨halternate, hplays, haloud⟩ := hstep.hears
  refine ⟨h.alternate.append ?_, h.aloud.append haloud, ?_⟩
  · rw [h.plays]
    exact halternate
  · rw [playsAfter_append, h.plays, hplays]

theorem quiet (h : Heard calls t) (hquiet : ∀ call ∈ others, call.turns? = none) :
    Heard (calls ++ others) t := by
  refine ⟨h.alternate.append (alternate_of_no_turn hquiet),
    h.aloud.append (playsAloud_of_no_turn hquiet), ?_⟩
  rw [playsAfter_append, playsAfter_of_no_turn hquiet, h.plays]

end Heard

namespace Window

open Speaker (Stage)

variable {settings : WindowSettings} {s s' : State} {earlier : List HostCall} {t : Stage}

theorem turns?_presenting (settings : WindowSettings) (screen : Screen) :
    ∀ call ∈ presenting settings screen, call.turns? = none := by
  intro call hcall
  rw [presenting] at hcall
  simp only [List.mem_cons, List.not_mem_nil, or_false] at hcall
  rcases hcall with rfl | rfl | rfl | rfl
  all_goals rfl

/-- Whether the tone is, by what the host was told since some time, as the speaker has it. -/
structure Tuned (earlier : List HostCall) (s : State) (t : Stage) : Prop where
  heard : ∃ calls, s.host.calls.toList = earlier ++ calls ∧ Heard calls t
  speaker : ∀ speaker ∈ s.speaker, speaker.At t
  none : s.speaker = none → t = .bare

namespace Tuned

/-- Calls that do not turn the tone on or off change nothing. -/
theorem quiet (others : List HostCall) (h : Tuned earlier s t)
    (hquiet : ∀ call ∈ others, call.turns? = .none)
    (hcalls : s'.host.calls.toList = s.host.calls.toList ++ others)
    (hspeaker : s'.speaker = s.speaker) : Tuned earlier s' t := by
  obtain ⟨calls, hheard, hcalls'⟩ := h.heard
  refine ⟨⟨calls ++ others, ?_, hcalls'.quiet hquiet⟩, ?_, ?_⟩
  · rw [hcalls, hheard, List.append_assoc]
  · rw [hspeaker]
    exact h.speaker
  · rw [hspeaker]
    exact h.none

theorem call (h : Tuned earlier s t) {c : HostCall} (hc : c.turns? = .none) :
    Tuned earlier (s.call c) t := by
  refine h.quiet [c] ?_ (Host.toList_call s.host c) rfl
  intro call hcall
  obtain rfl := List.mem_singleton.mp hcall
  exact hc

theorem congr (h : Tuned earlier s t) (hhost : s'.host = s.host)
    (hspeaker : s'.speaker = s.speaker) : Tuned earlier s' t := by
  refine h.quiet [] (List.forall_mem_nil _) ?_ hspeaker
  rw [hhost, List.append_nil]

theorem log (h : Tuned earlier s t) (category message : String) :
    Tuned earlier (s.log category message) t := h.congr rfl rfl

/-- A request to the speaker. -/
theorem serve (h : Tuned earlier s t) {speaker : Speaker} (hspeaker : s.speaker = some speaker)
    (request : Speaker.Request) :
    ∃ t', t.Step (speaker.exchange s.host request) t' ∧ Tuned earlier { s with
      speaker := some (speaker.serve s.host request).1
      host := (speaker.serve s.host request).2 } t' := by
  obtain ⟨calls, hcalls, hheard⟩ := h.heard
  have hserves := Speaker.serves (h.speaker speaker hspeaker) s.host request
  obtain ⟨t', hstep, hat⟩ := hserves.step
  refine ⟨t', hstep, ⟨_, ?_, hheard.exchange hstep⟩, ?_, ?_⟩
  · rw [hserves.calls, hcalls, List.append_assoc]
  · intro speaker' hspeaker'
    obtain rfl := Option.some.inj hspeaker'
    exact hat
  · intro hnone
    cases hnone

theorem updateSound (h : Tuned earlier s t) (hs' : updateSound s = .ok s') :
    ∃ t', Tuned earlier s' t' := by
  unfold Window.updateSound at hs'
  cases hspeaker : s.speaker with
  | none =>
      rw [hspeaker] at hs'
      cases hs'
      exact ⟨t, h⟩
  | some speaker =>
      rw [hspeaker] at hs'
      dsimp only at hs'
      cases hset : speaker.set s.console.sounding s.host with
      | error e =>
          rw [hset] at hs'
          cases hs'
      | ok after =>
          obtain ⟨t', -, htuned⟩ := h.serve hspeaker (.set s.console.sounding)
          rw [Speaker.serve, hset] at htuned
          rw [hset] at hs'
          cases hs'
          exact ⟨t', htuned⟩

theorem finishRound (h : Tuned earlier s t) :
    ∃ t', Tuned earlier (finishRound settings s).2 t' := by
  rw [Window.finishRound, runFrame_eq]
  cases s.console.runFrame.outcome with
  | error fault =>
      obtain ⟨-, hhost, hspeaker⟩ := showHistory_spec (framed s)
      exact ⟨t, h.congr hhost hspeaker⟩
  | ok n =>
      have hframed : Tuned earlier (framed s) t := h.congr rfl rfl
      dsimp only
      cases hsound : Window.updateSound (framed s) with
      | error e => exact ⟨t, hframed⟩
      | ok heard =>
          obtain ⟨t', htuned⟩ := hframed.updateSound hsound
          obtain ⟨-, hspeaker, hpresented⟩ := presentIfDrawn_spec settings heard
          have hshown : Tuned earlier (presentIfDrawn settings heard) t' := by
            refine htuned.quiet _ ?_ hpresented hspeaker
            by_cases hredraw : heard.console.processor.redraw = true
            · rw [if_pos hredraw]
              exact turns?_presenting settings _
            · rw [if_neg hredraw]
              exact List.forall_mem_nil _
          refine ⟨t', ?_⟩
          exact (hshown.log "perf" _).call (c := .waitForFrame frameRate) rfl

theorem round (h : Tuned earlier s t) (settings : WindowSettings) (events : List HostEvent) :
    ∃ t', Tuned earlier (round settings events s).2 t' := by
  obtain ⟨-, hhost, hspeaker⟩ := handleEvents_spec s events
  exact (h.congr hhost hspeaker).finishRound

theorem rounds (h : Tuned earlier s t) (batches : List (List HostEvent)) :
    ∃ t', Tuned earlier (rounds settings batches s).2 t' := by
  induction batches generalizing s t with
  | nil => exact h.round settings [.quit]
  | cons events rest ih =>
      obtain ⟨t', hround⟩ := h.round settings events
      cases hresult : (lap settings events s).result with
      | error e =>
          rw [rounds_cons_of_error hresult]
          exact ⟨t', hround⟩
      | ok _ =>
          rw [rounds_cons_of_ok hresult]
          cases events.any wantsQuit with
          | true => exact ⟨t', hround⟩
          | false => exact ih hround

/-- Closing a window shuts its speaker down. -/
theorem close (h : Tuned earlier s t) : Tuned earlier (close s) .bare := by
  unfold Window.close
  cases hspeaker : s.speaker with
  | none =>
      obtain rfl := h.none hspeaker
      exact h.call rfl
  | some speaker =>
      obtain ⟨t', hstep, htuned⟩ := h.serve hspeaker .shutDown
      obtain rfl := hstep.eq_bare rfl
      exact htuned.call rfl

/-- Asking for the mixer's rate. -/
theorem askMixer (h : Tuned earlier s t) :
    Tuned earlier { s with host := s.host.askMixer.2 } t := by
  refine h.quiet [.askMixer s.host.askMixer.1] ?_ (Host.toList_call _ _) rfl
  intro call hcall
  obtain rfl := List.mem_singleton.mp hcall
  rfl

theorem openMixer (h : Tuned earlier s t) : Tuned earlier (openMixer s).1 t := by
  have hasked := h.askMixer
  unfold Window.openMixer
  generalize s.host.askMixer = asked at hasked ⊢
  obtain ⟨_ | rate, host⟩ := asked
  · have hopened := hasked.call (c := .openMixer .standard) rfl
    dsimp only
    cases (State.call { s with host } (.openMixer .standard)).host.mixerFailure with
    | none => exact hopened
    | some failure => exact hopened.congr rfl rfl
  · exact hasked

/-- A speaker that has just been connected holds nothing. -/
theorem connectSpeaker (h : Tuned earlier s .bare) : Tuned earlier (connectSpeaker s) .bare := by
  have hasked := h.askMixer
  unfold Window.connectSpeaker
  generalize s.host.askMixer = asked at hasked ⊢
  obtain ⟨_ | rate, host⟩ := asked
  · exact hasked.congr rfl rfl
  · have hconnected := hasked.askMixer
    dsimp only at hconnected ⊢
    unfold Speaker.connect
    generalize host.askMixer = asked at hconnected ⊢
    obtain ⟨_ | rate', host'⟩ := asked
    · exact hconnected.congr rfl rfl
    · refine ⟨hconnected.heard, ?_, fun _ => rfl⟩
      intro speaker hspeaker
      obtain rfl := Option.some.inj hspeaker
      exact ⟨rfl, rfl, rfl⟩

theorem openSound (h : Tuned earlier s .bare) : Tuned earlier (openSound s) .bare := by
  have hmixer := h.openMixer
  unfold Window.openSound
  generalize Window.openMixer s = opened at hmixer ⊢
  obtain ⟨opened, _ | _⟩ := opened
  · exact hmixer
  · exact hmixer.connectSpeaker

theorem openUp (h : Tuned earlier s .bare) (settings : WindowSettings) :
    Tuned earlier (openUp settings s) .bare := by
  unfold Window.openUp
  cases settings.sound with
  | false =>
      have hstarted := (h.call (c := .startUp) rfl).call (c := .setCaption caption) rfl
      exact hstarted.call rfl
  | true =>
      have hprepared := h.call (c := .prepareMixer .standard 512) rfl
      have hstarted := (hprepared.call (c := .startUp) rfl).call (c := .setCaption caption) rfl
      exact hstarted.openSound.call rfl

end Tuned

/-- **Whatever ends a window, the tone is off then.** -/
theorem heard_run (settings : WindowSettings) (find : FilePath → Finding) (host : Host)
    (d : Diagnostics) : ∃ h calls, (run settings find (some host) d).host = some h ∧
      h.calls.toList = host.calls.toList ++ calls ∧ Heard calls .bare := by
  cases hload : load settings find host d with
  | error e =>
      rw [run_of_error hload]
      exact ⟨host, [], rfl, (List.append_nil _).symm, .nil⟩
  | ok console =>
      have hfirst : Tuned host.calls.toList ⟨console, none, host, d.consulted⟩ .bare :=
        ⟨⟨[], (List.append_nil _).symm, .nil⟩, fun _ hnone => (nomatch hnone), fun _ => rfl⟩
      obtain ⟨t, hended⟩ := (hfirst.openUp settings).rounds host.batches
      obtain ⟨calls, hcalls, hheard⟩ := hended.close.heard
      rw [run_of_ok hload]
      exact ⟨_, calls, rfl, hcalls, hheard⟩

end Window

namespace Speaker

/--
**A speaker keeps to the protocol**, however it is asked and however its host answers.  Its
exchanges are one for each request, their calls are all that the host receives, and if the tone
can be made then no request is refused.  A window, whichever way it comes to an end, turns the
tone on and off in turn and has it turned off in the end.
-/
theorem keeps_protocol {rate : Int} {frequency volume : Float} {earlier h : Host}
    {s : Speaker} (hconnect : connect rate frequency volume earlier = (.ok s, h))
    (requests : List Request) :
    Protocol (s.exchanges h requests) ∧
    (s.exchanges h requests).map Exchange.request = requests ∧
    (s.serveEach h requests).2.calls.toList
      = h.calls.toList ++ callsOf (s.exchanges h requests) ∧
    ((∃ samples, Tone.samples s.rate s.frequency Tone.standardAmplitude = .ok samples) →
      ∀ e ∈ s.exchanges h requests, e.answer = .ok ()) ∧
    ∀ settings find host d, ∃ h' calls,
      (Window.run settings find (some host) d).host = some h' ∧
        h'.calls.toList = host.calls.toList ++ calls ∧
        Alternate false calls ∧ PlaysAloud calls ∧ turnCount true calls = turnCount false calls ∧
        playsAfter false calls = false := by
  have hbare : s.At .bare := by
    unfold connect at hconnect
    generalize earlier.askMixer = asked at hconnect
    obtain ⟨_ | rate', host⟩ := asked
    · cases hconnect
    · cases hconnect
      exact ⟨rfl, rfl, rfl⟩
  obtain ⟨⟨t, hpath, -⟩, hcalls, hmade⟩ := exchanges_spec hbare h requests
  refine ⟨hpath.protocol, ?_, hcalls, ?_, ?_⟩
  · exact requests_exchanges s h requests
  · rintro ⟨samples, hsamples⟩ e he
    cases hanswer : e.answer with
    | ok met => rfl
    | error error =>
        have herror := hmade e he error hanswer
        rw [hsamples] at herror
        cases herror
  · intro settings find host d
    obtain ⟨h', calls, hrun, hheard, hcalls⟩ := Window.heard_run settings find host d
    have hcount := hcalls.alternate.turnCount_eq
    rw [hcalls.plays] at hcount
    exact ⟨h', calls, hrun, hheard, hcalls.alternate, hcalls.aloud, Nat.add_right_cancel hcount,
      hcalls.plays⟩

/-- A host that has an open mixer, and a channel only when asked again. -/
def grudgingHost : Host := ⟨⟨[some 44100]⟩, none, ⟨[false, true]⟩, [], #[], .seeded 0⟩

/-- The speaker that a window connects to it. -/
def grudgedSpeaker : Speaker := silent 44100 Tone.standardFrequency standardVolume

/-- Refused a channel at first, the speaker is granted one when it is asked again. -/
theorem grants_grudgedSpeaker {samples : Array Int}
    (hsamples : Tone.samples grudgedSpeaker.rate grudgedSpeaker.frequency Tone.standardAmplitude
      = .ok samples) :
    let after := grudgedSpeaker.serve grudgingHost.askMixer.2 (.set true)
    (after.1.exchange after.2 (.set true)).calls.any grants = true := by
  have hset := set_of_samples (s := grudgedSpeaker) rfl rfl hsamples grudgingHost.askMixer.2
  rw [voice_of_refused rfl rfl] at hset
  rw [serve, hset]
  exact grants_of_found ⟨rfl, rfl, rfl⟩ rfl

/-- Asked twice, turned off and shut down, it has turned off in the end what it turned on, and it
has obtained no second channel.  If there is a tone, it was played on the first one. -/
theorem keeps_protocol_grudgingHost :
    connect 44100 Tone.standardFrequency standardVolume grudgingHost
        = (.ok grudgedSpeaker, grudgingHost.askMixer.2) ∧
      ∃ log last, grudgedSpeaker.exchanges grudgingHost.askMixer.2
          [.set true, .set true, .set false, .shutDown] = log ++ [last] ∧
        turnCount true (callsOf log ++ last.calls) = turnCount false (callsOf log ++ last.calls) ∧
        (callsOf log).countP grants ≤ 1 ∧
        ((∃ samples, Tone.samples grudgedSpeaker.rate grudgedSpeaker.frequency
          Tone.standardAmplitude = .ok samples) → .play (-1) ∈ callsOf log) := by
  have hconnect : connect 44100 Tone.standardFrequency standardVolume grudgingHost
      = (.ok grudgedSpeaker, grudgingHost.askMixer.2) := rfl
  obtain ⟨hprotocol, hrequests, -⟩ :=
    keeps_protocol hconnect [.set true, .set true, .set false, .shutDown]
  obtain ⟨first, second, third, ⟨request, answer, calls⟩, hlog, hgrants⟩ :
      ∃ first second third last,
        grudgedSpeaker.exchanges grudgingHost.askMixer.2
            [.set true, .set true, .set false, .shutDown] = [first, second, third, last] ∧
          ((∃ samples, Tone.samples grudgedSpeaker.rate grudgedSpeaker.frequency
            Tone.standardAmplitude = .ok samples) → second.calls.any grants = true) :=
    ⟨_, _, _, _, rfl, fun ⟨_, hsamples⟩ => grants_grudgedSpeaker hsamples⟩
  rw [hlog] at hprotocol hrequests
  simp only [List.map_cons, List.map_nil, List.cons.injEq, and_true] at hrequests
  obtain ⟨hfirst, hsecond, hthird, rfl⟩ := hrequests
  have hunbroken : Unbroken [first, second, third] := by
    simp [Unbroken, hfirst, hsecond, hthird]
  refine ⟨hconnect, [first, second, third], _, hlog, ?_, ?_, ?_⟩
  · exact (hprotocol.stopped [first, second, third] answer calls [] rfl).1
  · exact (hprotocol.once [] [first, second, third] _ rfl hunbroken).2
  · intro htone
    obtain ⟨before, volume, hcalls⟩ := hprotocol.sounds second (by simp) (hgrants htone)
    simp [callsOf, hcalls]

end Speaker

end Chip8
