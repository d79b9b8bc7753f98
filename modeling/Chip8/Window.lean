/-
The front end: a window in which a console runs.

Once the program is loaded and the window is open, the front end goes round.  In each
round it takes the events that came in, runs one frame, turns the tone on or off,
shows the screen if it was drawn on, and waits for the next frame.  A wish to quit
ends it after the round in which it came; a fault ends it at once.  Whatever ends it,
the tone is stopped and the host is shut down.

The scripts of the host decide how many rounds there are, so going round is recursion
on the batches of events.  The time a frame takes is measured on a clock that stands
still.
-/
import Chip8.Monitor
import Chip8.Directory
import Chip8.Speaker

namespace Chip8

/-- What the user asked for. -/
structure WindowSettings where
  /-- Where the program is. -/
  program : Option FilePath
  /-- The number of instructions in a second. -/
  clockSpeed : Int
  /-- Whether the tone is heard. -/
  sound : Bool
  width : Int
  height : Int
  fullscreen : Bool
  /-- Whether a jump with an offset keeps only eight bits of its target. -/
  truncateJump : Bool

/-- The settings of a user who asked for nothing. -/
def WindowSettings.standard : WindowSettings := ⟨none, 600, true, 640, 320, false, false⟩

/-- Why the front end came to an end before the user wished it. -/
inductive WindowError where
  /-- There is no host to open a window. -/
  | noHost
  /-- No program was named. -/
  | noProgram
  /-- There is nothing at the program's path. -/
  | programMissing (path : FilePath)
  /-- The program's file cannot be read. -/
  | unreadable (path : FilePath) (error : FileError)
  /-- The file holds no program. -/
  | badProgram (path : FilePath) (error : ProgramError)
  /-- The console cannot be set up. -/
  | badConsole (error : ConsoleError)
  /-- The program has stopped the processor. -/
  | faulted (fault : Fault)
  /-- The tone cannot be computed. -/
  | noTone (error : ToneError)

namespace WindowError

/-- What a fault says about the program. -/
def faultKind : Fault → String
  | .emptyStack _ => "Stack underflow, possibly corrupted ROM: "
  | .illegal _ _ => "ROM contains invalid instructions: "
  | .access _ => "Memory access out of range: "
  | _ => "Emulation stopped: "

/-- What the front end says before it gives up. -/
def message : WindowError → String
  | noHost => "pygame is required to run the UI"
  | noProgram => "ROM image is required; pass a ROM path"
  | programMissing path => "ROM file not found: " ++ path.text
  | unreadable path error => "Unable to read ROM file " ++ path.text ++ ": " ++ error.message
  | badProgram path error => "Invalid ROM file " ++ path.text ++ ": " ++ error.message
  | badConsole error => error.message
  | faulted fault => faultKind fault ++ fault.message
  | noTone error => error.message

/-- Whether the front end foresees the error and says so in its own words. -/
def foreseen : WindowError → Bool
  | badConsole _ => false
  | noTone _ => false
  | _ => true

end WindowError

namespace Window

/-- The title of the window. -/
def caption : String := "CHIP-8 Emulator (Python)"

/-- Frames per second. -/
def frameRate : Int := 60

/-- How many steps the front end remembers. -/
def historyCapacity : Nat := 512

/-- How many of them it shows after a fault. -/
def historyShown : Int := 64

/-- Everything that changes while the front end runs. -/
structure State where
  console : Console
  speaker : Option Speaker
  host : Host
  diagnostics : Diagnostics

/-- The state after a call to the host. -/
def State.call (s : State) (c : HostCall) : State := { s with host := s.host.call c }

/-- The state after a message was offered. -/
def State.log (s : State) (category message : String) : State :=
  { s with diagnostics := s.diagnostics.log category message }

/-! ### Loading the program -/

/-- The program at the end of the path in the settings. -/
def loadProgram (settings : WindowSettings) (find : FilePath → Finding) :
    Except WindowError Program :=
  match settings.program with
  | none => .error .noProgram
  | some path =>
    let found := find path
    if ¬ found.isPresent then .error (.programMissing path)
    else
      match Program.ofFinding path found with
      | .ok program => .ok program
      | .error (.unreadable e) => .error (.unreadable path e)
      | .error e => .error (.badProgram path e)

/-- The console that is about to run the program. -/
def loadConsole (settings : WindowSettings) (find : FilePath → Finding)
    (random : RandomSource) (history : Option History) : Except WindowError Console :=
  match loadProgram settings find with
  | .error e => .error e
  | .ok program =>
    let setup : Processor.Setup :=
      ⟨settings.truncateJump, random, DecodeTable.standard⟩
    match Console.start program.image setup ⟨settings.clockSpeed, frameRate⟩ history with
    | .ok console => .ok console
    | .error e => .error (.badConsole e)

/-! ### Sound -/

/-- Opens the mixer unless it is open; the flag tells whether that went well. -/
def openMixer (s : State) : State × Bool :=
  match s.host.askMixer with
  | (some _, host) => ({ s with host }, true)
  | (none, host) =>
    let s := { s with host }.call (.openMixer .standard)
    match s.host.mixerFailure with
    | none => (s, true)
    | some failure => (s.log "audio" ("mixer_init_failed=" ++ failure), false)

/-- Connects the speaker to the mixer at the rate the mixer has. -/
def connectSpeaker (s : State) : State :=
  match s.host.askMixer with
  | (none, host) => { s with host }.log "audio" "mixer_unavailable"
  | (some rate, host) =>
    match Speaker.connect rate Tone.standardFrequency Speaker.standardVolume host with
    | (.ok speaker, host) => { s with host, speaker := some speaker }
    | (.error e, host) => { s with host }.log "audio" ("beeper_init_failed=" ++ e.message)

/-- Sets up the sound, as far as the host allows it. -/
def openSound (s : State) : State :=
  match openMixer s with
  | (s, true) => connectSpeaker s
  | (s, false) => s

/-- Turns the tone on or off as the last frame said. -/
def updateSound (s : State) : Except ToneError State :=
  match s.speaker with
  | none => .ok s
  | some speaker =>
    match speaker.set s.console.sounding s.host with
    | .ok (speaker, host) => .ok { s with speaker := some speaker, host }
    | .error e => .error e

/-! ### Events -/

/-- The message about a key of the host. -/
def keyMessage (name : String) (key : Option (Fin 16)) (down : Bool) : String :=
  let number : TemplateValue := match key with
    | some key => .number key.val
    | none => .nothing
  "event=" ++ name ++ " key=" ++ number.plain ++ " pressed=" ++ (TemplateValue.truth down).plain

/-- The state after a key of the host went down or up. -/
def handleKey (s : State) (name : String) (down : Bool) : State :=
  let key := Keypad.ofName? name
  let s := s.log "input" (keyMessage name key down)
  match key with
  | none => s
  | some key =>
    let (processor, diagnostics) := s.console.processor.holdLogged key down s.diagnostics
    { s with console := { s.console with processor }, diagnostics }

/-- Whether an event is a wish to quit. -/
def wantsQuit : HostEvent → Bool
  | .quit => true
  | .keyDown name => name == "escape"
  | _ => false

/-- The state after an event. -/
def handleEvent (s : State) (event : HostEvent) : State :=
  if wantsQuit event then s
  else
    match event with
    | .keyDown name => handleKey s name true
    | .keyUp name => handleKey s name false
    | _ => s

/-! ### Rounds -/

/-- Runs one frame. -/
def runFrame (s : State) : Except Fault Nat × State :=
  let (frame, diagnostics) := s.console.runFrameLogged s.diagnostics
  (frame.outcome, { s with console := frame.console, diagnostics })

/-- Shows the screen. -/
def present (settings : WindowSettings) (s : State) : State :=
  let picture := Picture.ofScreen Palette.monochrome 1 s.console.processor.screen
  let host := s.host.call (.takePicture picture)
  let host := host.call (.scalePicture settings.width settings.height)
  let host := host.call (.placePicture 0 0)
  let host := host.call .showWindow
  { s with
    host
    console := { s.console with processor := s.console.processor.acknowledge } }

/-- Shows the screen if it was drawn on. -/
def presentIfDrawn (settings : WindowSettings) (s : State) : State :=
  if s.console.processor.redraw then present settings s else s

/-- The message about the speed of a frame. -/
def frameMessage (frames instructions : Nat) : String :=
  "frame=" ++ toString frames ++ " instructions=" ++ toString instructions ++ " frame_ms=0.000"

/-- Shows the last steps, if they were recorded. -/
def showHistory (s : State) : State :=
  match s.console.history with
  | none => s
  | some history =>
    { s with diagnostics := s.diagnostics.logHistory "trace" history (some historyShown) }

/-- One round after its events: a frame, the tone, the screen, and the wait. -/
def finishRound (settings : WindowSettings) (s : State) : Except WindowError Unit × State :=
  match runFrame s with
  | (.error fault, s) => (.error (.faulted fault), showHistory s)
  | (.ok instructions, s) =>
    match updateSound s with
    | .error e => (.error (.noTone e), s)
    | .ok s =>
      let s := presentIfDrawn settings s
      let s := s.log "perf" (frameMessage s.console.frames instructions)
      (.ok (), s.call (.waitForFrame frameRate))

/-- One round with the events that came in. -/
def round (settings : WindowSettings) (events : List HostEvent) (s : State) :
    Except WindowError Unit × State :=
  finishRound settings (events.foldl handleEvent s)

/-- Goes round until a wish to quit or an error. -/
def rounds (settings : WindowSettings) : List (List HostEvent) → State →
    Except WindowError Unit × State
  | [], s => round settings [.quit] s
  | events :: rest, s =>
    match round settings events s with
    | (.error e, s) => (.error e, s)
    | (.ok (), s) => if events.any wantsQuit then (.ok (), s) else rounds settings rest s

/-- Stops the tone and shuts the host down. -/
def close (s : State) : State :=
  match s.speaker with
  | none => s.call .shutDown
  | some speaker =>
    let (speaker, host) := speaker.shutDown s.host
    { s with speaker := some speaker, host }.call .shutDown

/-- Starts the host up and opens the window. -/
def openUp (settings : WindowSettings) (s : State) : State :=
  let s := if settings.sound then s.call (.prepareMixer .standard 512) else s
  let s := (s.call .startUp).call (.setCaption caption)
  let s := if settings.sound then openSound s else s
  s.call (.openWindow settings.width settings.height settings.fullscreen)

/-- What the front end leaves behind. -/
structure Outcome where
  result : Except WindowError Unit
  host : Option Host
  /-- The console, if one was set up. -/
  console : Option Console
  diagnostics : Diagnostics

/-- The history of a front end that records its steps, or none. -/
def historyFor (recording : Bool) : Option History :=
  if recording then some (History.empty historyCapacity) else none

/-- Runs the front end from beginning to end. -/
def run (settings : WindowSettings) (find : FilePath → Finding) (host : Option Host)
    (d : Diagnostics) : Outcome :=
  let (recording, d) := d.ask (some "trace")
  match host with
  | none => ⟨.error .noHost, none, none, d⟩
  | some host =>
    match loadConsole settings find host.random (historyFor recording) with
    | .error e => ⟨.error e, some host, none, d⟩
    | .ok console =>
      let (result, s) := rounds settings host.batches (openUp settings ⟨console, none, host, d⟩)
      let s := close s
      ⟨result, some s.host, some s.console, s.diagnostics⟩

end Window

end Chip8
