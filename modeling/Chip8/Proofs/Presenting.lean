/-
What the window shows.

A picture is handed over, brought to the size of the window, put into it and shown, each by a
call of its own; `Display` follows it on this way, so what is seen at a time is decided by the
calls that the host has received.

Only two operations draw, and they are also the only ones that leave a note of it
(`Completes.drawn`).  As the note is taken back only when the screen has just been shown, a
window with a console that has no such note shows the screen as it is.  That is `Current`: it
holds when the window opens, and every round that is completed keeps it.
-/
import Chip8.Proofs.Redraw
import Chip8.Proofs.Runs

namespace Chip8

/-! ### Pictures on their way into the window -/

/-- The picture of a dark screen. -/
def Picture.dark : Picture := ⟨64, 32, Array.replicate 6144 0⟩

/-- The pictures between a front end and the one who looks at its window. -/
structure Display where
  /-- The picture that was handed over, -/
  taken : Picture
  /-- the one that was brought to a size, -/
  scaled : Picture
  /-- the one that was put into the window -/
  placed : Picture
  /-- and the one that is seen. -/
  seen : Picture

namespace Display

/-- A window in which nothing was shown yet. -/
def dark : Display := ⟨.dark, .dark, .dark, .dark⟩

/-- The pictures after a call. -/
def follow (d : Display) : HostCall → Display
  | .openWindow _ _ _ => dark
  | .takePicture picture => { d with taken := picture }
  | .scalePicture _ _ => { d with scaled := d.taken }
  | .placePicture _ _ => { d with placed := d.scaled }
  | .showWindow => { d with seen := d.placed }
  | _ => d

theorem follow_of_speaker {call : HostCall} (h : call.OfSpeaker) (d : Display) :
    d.follow call = d := by
  cases call with
  | makeSound | findChannel | play | setVolume | stopChannel => rfl
  | prepareMixer | startUp | shutDown | setCaption | openWindow | askMixer | openMixer
  | takePicture | scalePicture | placePicture | showWindow | waitForFrame => cases h

theorem foldl_follow_of_speaker {calls : List HostCall} (h : ∀ call ∈ calls, call.OfSpeaker)
    (d : Display) : calls.foldl follow d = d := by
  induction calls with
  | nil => rfl
  | cons call rest ih =>
      obtain ⟨hcall, hrest⟩ := List.forall_mem_cons.mp h
      rw [List.foldl_cons, follow_of_speaker hcall, ih hrest]

end Display

/-- The picture that is seen in the window of a host. -/
def Host.seen (h : Host) : Picture := (h.calls.toList.foldl Display.follow .dark).seen

theorem Picture.share_dark (k : Nat) : share ⟨0, 0, 0⟩ k = 0 := by
  unfold share
  split
  · rfl
  · split
    · rfl
    · rfl

/-- Nothing of a dark screen is lit. -/
theorem Picture.ofScreen_standard : ofScreen .monochrome 1 .standard = .dark := by
  have hbytes : (ofScreen .monochrome 1 .standard).bytes = Array.replicate 6144 0 := by
    refine Array.ext (by simp [ofScreen, Screen.standard, Screen.blank]) ?_
    intro k _ _
    rw [Array.getElem_replicate]
    simp only [ofScreen, Array.getElem_ofFn, Screen.standard, Screen.lit_blank]
    exact share_dark _
  have hwidth : (ofScreen .monochrome 1 .standard).width = 64 := rfl
  have hheight : (ofScreen .monochrome 1 .standard).height = 32 := rfl
  -- The bytes are too many to be computed, so the picture is taken apart field by field.
  generalize ofScreen .monochrome 1 .standard = picture at hbytes hwidth hheight
  cases picture
  subst hbytes hwidth hheight
  rw [dark]

namespace Processor

variable {setup : Setup} {p q : Processor} {count : Nat}

/-! ### Drawing -/

/-- Whether a processor is about to complete an instruction that draws. -/
def Paints (p : Processor) : Prop :=
  (∃ decoded, p.step.1 = .completed decoded) ∧ (p.At .clearScreen ∨ p.At .draw)

/-- A step that draws leaves a note of it, and no other step changes the screen. -/
theorem Reachable.drawn_step (h : Reachable setup p) (ht : setup.table = .standard)
    {decoded : Decoded} (hstep : p.step = (.completed decoded, q)) :
    (q.redraw = true ↔ p.redraw = true ∨ p.Paints) ∧ (¬ p.Paints → q.screen = p.screen) := by
  have hnext := next_iff_at (h.table.trans ht)
  have hpaints : p.Marks ↔ p.Paints := by rw [Marks, Paints, hnext, hnext]
  have hsmears : ¬ p.Smears := by
    rintro ⟨-, ⟨fault, reached, hfailed⟩, -⟩
    rw [hstep] at hfailed
    cases hfailed
  obtain ⟨hredraw, hscreen⟩ := h.bounded.redraw_step
  rw [hstep, hpaints] at hredraw
  rw [hstep, hpaints] at hscreen
  exact ⟨hredraw, fun hnot => hscreen hnot hsmears⟩

/-- **Nothing is drawn without a note of it.** -/
theorem Completes.drawn (h : Completes count p q) (hp : Reachable setup p)
    (ht : setup.table = .standard) :
    (q.redraw = true ↔ p.redraw = true ∨ ∃ r ∈ p.tried count, r.Paints) ∧
      ((¬ ∃ r ∈ p.tried count, r.Paints) → q.screen = p.screen) := by
  induction h with
  | refl p =>
      refine ⟨?_, fun _ => rfl⟩
      constructor
      · exact .inl
      · rintro (hredraw | ⟨r, hr, -⟩)
        · exact hredraw
        · cases hr
  | @step count p next q decoded hstep rest ih =>
      have hnext : Reachable setup next := by
        have hserve := hp.serve .step
        rw [serve_step, hstep] at hserve
        exact hserve
      obtain ⟨hredraw, hscreen⟩ := hp.drawn_step ht hstep
      obtain ⟨hredraw', hscreen'⟩ := ih hnext
      rw [tried_succ_of_completed hstep, List.exists_mem_cons_iff, hredraw', hredraw, or_assoc]
      refine ⟨Iff.rfl, ?_⟩
      intro hnone
      obtain ⟨hfirst, hothers⟩ := not_or.mp hnone
      rw [hscreen' hothers, hscreen hfirst]

end Processor

namespace Console

variable {setup : Processor.Setup} {c : Console}

/-- Whether the next frame completes an instruction that draws. -/
def Paints (c : Console) : Prop := ∃ p ∈ c.processor.tried c.clock.perFrame, p.Paints

theorem Whole.drawn (h : c.Whole) (hp : Processor.Reachable setup c.processor)
    (ht : setup.table = .standard) :
    (c.runFrame.console.processor.redraw = true ↔ c.processor.redraw = true ∨ c.Paints) ∧
      (¬ c.Paints → c.runFrame.console.processor.screen = c.processor.screen) := by
  rw [h.ticks]
  exact h.completes.drawn hp ht

end Console

namespace Window

variable {settings : WindowSettings} {s t : State} {setup : Processor.Setup}
  {find : FilePath → Finding} {host : Host} {d : Diagnostics}

/-! ### Windows that show the screen as it is -/

/-- A window that shows the screen of a console that some program has led to. -/
structure Current (setup : Processor.Setup) (s : State) : Prop where
  reachable : Processor.Reachable setup s.console.processor
  redraw : s.console.processor.redraw = false
  seen : Picture.render .monochrome 1 s.console.processor.screen = .ok s.host.seen

/-- What a round asks of the host: the sounds that are due, the screen if it was painted on, and
to wait. -/
structure Presents (settings : WindowSettings) (s t : State) : Prop where
  painted : s.console.Paints → ∃ sounds, (∀ call ∈ sounds, call.OfSpeaker) ∧
    t.host.calls.toList = s.host.calls.toList ++ sounds
      ++ presenting settings t.console.processor.screen ++ [.waitForFrame frameRate]
  unpainted : ¬ s.console.Paints → ∃ sounds, (∀ call ∈ sounds, call.OfSpeaker) ∧
    t.host.calls.toList = s.host.calls.toList ++ sounds ++ [.waitForFrame frameRate]

theorem Current.handleEvents (h : Current setup s) (events : List HostEvent) :
    Current setup (events.foldl handleEvent s) := by
  obtain ⟨hconsole, hhost, -⟩ := handleEvents_spec s events
  obtain ⟨keypad, hkeypad⟩ := Console.attend_eq s.console events
  have hreach := Console.reachable_attend h.reachable events
  rw [← hconsole] at hreach
  rw [hkeypad] at hconsole
  constructor
  · exact hreach
  · rw [hconsole]
    exact h.redraw
  · rw [hconsole, hhost]
    exact h.seen

theorem seen_of_presenting {h h' : Host} {sounds : List HostCall} {screen : Screen}
    (hsounds : ∀ call ∈ sounds, call.OfSpeaker)
    (hcalls : h'.calls.toList = h.calls.toList ++ sounds ++ presenting settings screen
      ++ [.waitForFrame frameRate]) :
    h'.seen = Picture.ofScreen .monochrome 1 screen := by
  rw [Host.seen, hcalls, List.foldl_append, List.foldl_append, List.foldl_append,
    Display.foldl_follow_of_speaker hsounds]
  rfl

theorem seen_of_waiting {h h' : Host} {sounds : List HostCall}
    (hsounds : ∀ call ∈ sounds, call.OfSpeaker)
    (hcalls : h'.calls.toList = h.calls.toList ++ sounds ++ [.waitForFrame frameRate]) :
    h'.seen = h.seen := by
  rw [Host.seen, hcalls, List.foldl_append, List.foldl_append,
    Display.foldl_follow_of_speaker hsounds]
  rfl

/-- A round that ends well keeps the window current. -/
theorem Current.of_ends (h : Current setup s) (ht : setup.table = .standard)
    (hends : Ends settings s (.ok ()) t) : Current setup t ∧ Presents settings s t := by
  cases hends with
  | @completed n sounds _ houtcome hsounds _ hconsole hcalls =>
      obtain ⟨hredraw, hscreen⟩ := (Console.whole_of_ok houtcome).drawn h.reachable ht
      have hreach := Console.reachable_shown h.reachable
      rw [← hconsole] at hreach
      have hafter : t.console.processor.screen = s.console.runFrame.console.processor.screen := by
        rw [hconsole, Console.shown, Processor.acknowledge]
      have hnoted : t.console.processor.redraw = false := by
        rw [hconsole, Console.shown, Processor.acknowledge]
      by_cases hpaints : s.console.Paints
      · rw [if_pos (hredraw.mpr (.inr hpaints)), ← hafter] at hcalls
        refine ⟨⟨hreach, hnoted, ?_⟩, ⟨fun _ => ⟨sounds, hsounds, hcalls⟩, ?_⟩⟩
        · rw [seen_of_presenting hsounds hcalls]
          rfl
        · intro hnot
          exact absurd hpaints hnot
      · have hunnoted : ¬ s.console.runFrame.console.processor.redraw = true := by
          rw [hredraw, h.redraw]
          simpa using hpaints
        rw [if_neg hunnoted, List.append_nil] at hcalls
        refine ⟨⟨hreach, hnoted, ?_⟩, ⟨?_, fun _ => ⟨sounds, hsounds, hcalls⟩⟩⟩
        · rw [seen_of_waiting hsounds hcalls, hafter, hscreen hpaints]
          exact h.seen
        · intro hyes
          exact absurd hyes hpaints

/-- A window opens dark, and so is the screen of a console that was just set up. -/
theorem current_openUp {content : Array UInt8} (hfit : FitsProgramSpace content) (clock : Clock)
    (history : Option History) :
    Current setup (openUp settings
      ⟨Console.around (Processor.loaded content setup) clock history, none, host, d⟩) := by
  have hseen : ∀ s, (openUp settings s).host.seen = .dark := by
    intro s
    obtain ⟨earlier, hcalls⟩ := calls_openUp settings s
    rw [Host.seen, hcalls, List.foldl_append]
    rfl
  constructor
  · rw [console_openUp]
    exact Processor.reachable_loaded hfit
  · rw [console_openUp]
    rfl
  · rw [console_openUp, hseen, ← Picture.ofScreen_standard]
    rfl

/--
**The window never shows a stale picture.**  At the end of every completed round the note of a
drawing is taken back, what is seen is the picture of the screen, and the round has shown the
screen, once, exactly if its frame completed an instruction that draws.
-/
theorem never_stale {l : Lap} (hl : l ∈ lapsOf settings find host d) (hok : l.result = .ok ()) :
    l.after.console.processor.redraw = false ∧
      (l.after.console.processor.screen.width = 64 ∧ l.after.console.processor.screen.height = 32) ∧
      Picture.render .monochrome 1 l.after.console.processor.screen = .ok l.after.host.seen ∧
      Presents settings l.ready l.after := by
  obtain ⟨console, hload⟩ := loaded_of_mem_lapsOf hl
  obtain ⟨path, content, -, -, hfit, -, rfl⟩ := load_eq_ok_iff.mp hload
  rw [lapsOf_of_ok hload] at hl
  have hkeep : ∀ s events, Current (setupFor settings host.random) s →
      (lap settings events s).result = .ok () →
      Current (setupFor settings host.random) (lap settings events s).after := by
    intro s events hs hresult
    have hends := ends_lap settings events s
    rw [hresult] at hends
    exact ((hs.handleEvents events).of_ends rfl hends).1
  obtain ⟨before, hbefore, hlap⟩ := lap_of_mem_laps hkeep (current_openUp hfit _ _) hl
  have hends := ends_lap settings l.events before
  rw [← hlap, hok] at hends
  have hready : Current (setupFor settings host.random) l.ready := by
    rw [hlap]
    exact hbefore.handleEvents l.events
  obtain ⟨hafter, hpresents⟩ := hready.of_ends rfl hends
  have hbounded := hafter.reachable.bounded
  exact ⟨hafter.redraw, ⟨hbounded.width, hbounded.height⟩, hafter.seen, hpresents⟩

theorem paints_clearing : clearingConsole.Paints := by
  obtain ⟨decoded, q, hstep⟩ := step_clearing .released
  have hclears : clearingConsole.processor.At .clearScreen :=
    Processor.at_of_image fits_clearing rfl (k := 0) rfl (by decide) rfl (by decide)
  have hone : clearingConsole.clock.perFrame = 1 := by decide
  have htried : clearingConsole.processor.tried 1 = [clearingConsole.processor] :=
    Processor.tried_succ_of_completed hstep 0
  refine ⟨clearingConsole.processor, ?_, ⟨decoded, congrArg Prod.fst hstep⟩, .inl hclears⟩
  rw [hone, htried]
  exact List.mem_singleton_self _

/-- A program that clears the screen makes the window show a picture. -/
theorem never_stale_clearing :
    ∃ l ∈ lapsOf slowSettings (fun _ => .file clearing) (plainHost []) (.start none),
      l.result = .ok () ∧ l.ready.console.Paints ∧
      Picture.render .monochrome 1 l.after.console.processor.screen = .ok l.after.host.seen ∧
      ∃ sounds, l.after.host.calls.toList = l.ready.host.calls.toList ++ sounds
        ++ presenting slowSettings l.after.console.processor.screen
        ++ [.waitForFrame frameRate] := by
  have hok := result_clearing [] [.quit]
  have hl : lap slowSettings [.quit] (clearingStart [])
      ∈ lapsOf slowSettings (fun _ => .file clearing) (plainHost []) (.start none) := by
    rw [lapsOf_clearing]
    exact List.mem_singleton_self _
  have hpaints : (lap slowSettings [.quit] (clearingStart [])).ready.console.Paints := by
    rw [console_ready, console_clearingStart]
    exact paints_clearing
  obtain ⟨-, -, hseen, hpresents⟩ := never_stale hl hok
  obtain ⟨sounds, -, hcalls⟩ := hpresents.painted hpaints
  exact ⟨_, hl, hok, hpaints, hseen, sounds, hcalls⟩

end Window

end Chip8
