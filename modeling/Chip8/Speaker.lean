/-
The speaker: plays the tone or is silent.

The tone is computed when it is first needed and played on a channel that the host
grants.  Both are kept while the speaker goes on and off and given up when it shuts
down.  Without a channel the speaker stays silent and asks again the next time.
-/
import Chip8.Tone
import Chip8.Host

namespace Chip8

/-- A speaker and what it holds. -/
structure Speaker where
  rate : Int
  frequency : Float
  volume : Float
  /-- Whether the tone was handed to the host. -/
  built : Bool
  /-- Whether the host granted a channel. -/
  granted : Bool
  playing : Bool

/-- Why there is no speaker. -/
inductive SpeakerError where
  /-- There is no host to play the tone. -/
  | noHost
  /-- The mixer has not been opened. -/
  | mixerClosed

/-- The complaint about the host. -/
def SpeakerError.message : SpeakerError → String
  | noHost => "pygame is required for audio output"
  | mixerClosed => "pygame mixer must be initialised before creating ToneBeeper"

namespace Speaker

/-- The volume unless the host asks for another. -/
def standardVolume : Float := 0.35

/-- A volume brought between zero and one; what is no number counts as one. -/
def clampVolume (volume : Float) : Float :=
  let low := if volume < 1.0 then volume else 1.0
  if low > 0.0 then low else 0.0

/-- A silent speaker. -/
def silent (rate : Int) (frequency volume : Float) : Speaker :=
  ⟨max 1 rate, frequency, clampVolume volume, false, false, false⟩

/-- A speaker on the mixer of a host, which has to be open. -/
def connect (rate : Int) (frequency volume : Float) (h : Host) :
    Except SpeakerError Speaker × Host :=
  match h.askMixer with
  | (none, h) => (.error .mixerClosed, h)
  | (some _, h) => (.ok (silent rate frequency volume), h)

/-- Stops the tone if it is playing. -/
def stop (s : Speaker) (h : Host) : Speaker × Host :=
  ({ s with playing := false }, if s.granted && s.playing then h.call .stopChannel else h)

/-- Hands the tone to the host unless it has it. -/
def build (s : Speaker) (h : Host) : Except ToneError (Speaker × Host) :=
  if s.built then .ok (s, h)
  else
    match Tone.samples s.rate s.frequency Tone.standardAmplitude with
    | .error e => .error e
    | .ok samples => .ok ({ s with built := true }, h.call (.makeSound (Tone.bytes samples)))

/-- Asks for a channel unless there is one. -/
def obtainChannel (s : Speaker) (h : Host) : Speaker × Host :=
  if s.granted then (s, h)
  else
    let (found, h) := h.findChannel
    ({ s with granted := found }, h)

/-- Starts the tone if there is a channel. -/
def play (s : Speaker) (h : Host) : Speaker × Host :=
  if s.granted then
    ({ s with playing := true }, (h.call (.play (-1))).call (.setVolume s.volume))
  else
    (s, h)

/-- Starts the tone if it is not playing. -/
def start (s : Speaker) (h : Host) : Except ToneError (Speaker × Host) :=
  if s.playing then .ok (s, h)
  else
    match s.build h with
    | .error e => .error e
    | .ok (s, h) =>
      let (s, h) := s.obtainChannel h
      .ok (s.play h)

/-- Turns the tone on or off. -/
def set (s : Speaker) (on : Bool) (h : Host) : Except ToneError (Speaker × Host) :=
  if on then s.start h else .ok (s.stop h)

/-- Stops the tone and gives up tone and channel. -/
def shutDown (s : Speaker) (h : Host) : Speaker × Host :=
  let (s, h) := s.stop h
  ({ s with built := false, granted := false }, h)

end Speaker

end Chip8
