/-
The host: the window, the keyboard and the mixer around a console.

Everything a front end asks of the host is a `HostCall`.  A host records the calls in
order and answers from scripts: which rate the mixer has, whether a channel is free,
and which events came in since the last time.  The last answer of a script is repeated
for ever.  A host also brings the source of random numbers for the program it runs.
-/
import Chip8.Picture
import Chip8.Random.Source

namespace Chip8

/-- Samples per second, bits per sample (negative for signed samples) and channels. -/
structure MixerFormat where
  rate : Int
  bits : Int
  channels : Int

/-- The format the console asks for. -/
def MixerFormat.standard : MixerFormat := ⟨44100, -16, 1⟩

/-- What a front end asks of the host. -/
inductive HostCall where
  /-- Announces the format and the buffer that the mixer will be opened with. -/
  | prepareMixer (format : MixerFormat) (buffer : Int)
  | startUp
  | shutDown
  | setCaption (caption : String)
  | openWindow (width height : Int) (fullscreen : Bool)
  /-- Asks the mixer for its rate; the answer is none if the mixer is closed. -/
  | askMixer (rate : Option Int)
  | openMixer (format : MixerFormat)
  /-- Hands over the samples of a sound. -/
  | makeSound (bytes : List UInt8)
  /-- Asks for a channel, by force if need be; the answer is whether there is one. -/
  | findChannel (force found : Bool)
  /-- Plays the sound, so many times more or, with a negative number, for ever. -/
  | play (repeats : Int)
  | setVolume (volume : Float)
  | stopChannel
  /-- Hands over a picture. -/
  | takePicture (picture : Picture)
  /-- Brings the picture to a size. -/
  | scalePicture (width height : Int)
  /-- Puts the picture into the window. -/
  | placePicture (x y : Int)
  | showWindow
  /-- Waits until the next frame is due at a rate. -/
  | waitForFrame (rate : Int)

/-- What happened at the host. -/
inductive HostEvent where
  | quit
  | keyDown (name : String)
  | keyUp (name : String)
  | other

/-- Answers that are given one after the other; the last one is repeated. -/
structure Script (α : Type) where
  answers : List α

/-- The next answer, or a default if there never was one, and the script after it. -/
def Script.next {α : Type} (s : Script α) (default : α) : α × Script α :=
  match s.answers with
  | [] => (default, s)
  | [answer] => (answer, s)
  | answer :: rest => (answer, ⟨rest⟩)

/-- A host with its scripts and the calls it received. -/
structure Host where
  mixerRates : Script (Option Int)
  /-- What opening the mixer fails with, if it fails. -/
  mixerFailure : Option String
  channels : Script Bool
  /-- The events of each poll; once they are used up, every poll finds a wish to quit. -/
  batches : List (List HostEvent)
  calls : Array HostCall
  /-- Where a program's random numbers come from, unless the host says otherwise a generator
  that starts from zero. -/
  random : RandomSource := RandomSource.seeded 0

namespace Host

/-- The host after a call. -/
def call (h : Host) (c : HostCall) : Host := { h with calls := h.calls.push c }

/-- Asks the mixer for its rate. -/
def askMixer (h : Host) : Option Int × Host :=
  let (rate, mixerRates) := h.mixerRates.next none
  (rate, { h with mixerRates }.call (.askMixer rate))

/-- Asks for a channel by force. -/
def findChannel (h : Host) : Bool × Host :=
  let (found, channels) := h.channels.next false
  (found, { h with channels }.call (.findChannel true found))

end Host

end Chip8
