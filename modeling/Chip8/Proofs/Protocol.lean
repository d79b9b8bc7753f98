/-
How a speaker is to deal with its host.

A speaker is turned on, turned off and shut down in any order, and its host may refuse a channel
as often as it likes.  An `Exchange` is one such request with its answer and the calls it makes,
and the `exchanges` of a speaker are all that its host can see of it.

What a speaker holds is one of four stages: nothing, the tone, the tone and a channel, and both
while the tone plays.  `Stage.Step` lists the exchanges that lead from one stage to another, and
the `Protocol` holds of every path through the stages that starts with nothing.
-/
import Chip8.Speaker

namespace Chip8

/-! ### What a host hears -/

namespace HostCall

/-- Whether a call turns the tone on or off, if it does. -/
def turns? : HostCall → Option Bool
  | .play _ => some true
  | .stopChannel => some false
  | _ => none

/-- Whether a call hands over a sound. -/
def makesSound : HostCall → Bool
  | .makeSound _ => true
  | _ => false

/-- Whether a call obtains a channel. -/
def grants : HostCall → Bool
  | .findChannel _ found => found
  | _ => false

/-- Whether the tone plays after some calls if it played before them or not. -/
def playsAfter (playing : Bool) (calls : List HostCall) : Bool :=
  calls.foldl (fun playing call => call.turns?.getD playing) playing

/-- Whether the tone is turned on only while it is off, and off only while it is on. -/
def Alternate : Bool → List HostCall → Prop
  | _, [] => True
  | playing, call :: rest =>
    (∀ now ∈ call.turns?, now = !playing) ∧ Alternate (call.turns?.getD playing) rest

/-- Whether the tone is always played for ever, and every time the volume is set next. -/
def PlaysAloud : List HostCall → Prop
  | [] => True
  | call :: rest =>
    (∀ repeats, call = .play repeats →
      repeats = -1 ∧ ∃ volume later, rest = .setVolume volume :: later) ∧ PlaysAloud rest

/-- Whether nothing is played before a sound was handed over, earlier or among the calls. -/
def MakesFirst : Bool → List HostCall → Prop
  | _, [] => True
  | made, call :: rest =>
    (∀ repeats, call = .play repeats → made = true) ∧ MakesFirst (made || call.makesSound) rest

/-- How many of some calls turn the tone on, or off. -/
def turnCount (on : Bool) (calls : List HostCall) : Nat :=
  calls.countP fun call => call.turns? == some on

variable {playing made : Bool} {calls first second : List HostCall}

@[simp] theorem playsAfter_append (playing : Bool) (first second : List HostCall) :
    playsAfter playing (first ++ second) = playsAfter (playsAfter playing first) second :=
  List.foldl_append

theorem playsAfter_of_no_turn (h : ∀ call ∈ calls, call.turns? = none) :
    playsAfter playing calls = playing := by
  induction calls with
  | nil => rfl
  | cons call rest ih =>
      obtain ⟨hcall, hrest⟩ := List.forall_mem_cons.mp h
      rw [playsAfter, List.foldl_cons, hcall]
      exact ih hrest

theorem Alternate.append (h : Alternate playing first)
    (h' : Alternate (playsAfter playing first) second) : Alternate playing (first ++ second) := by
  induction first generalizing playing with
  | nil => exact h'
  | cons call rest ih => exact ⟨h.1, ih h.2 h'⟩

theorem alternate_of_no_turn (h : ∀ call ∈ calls, call.turns? = none) :
    Alternate playing calls := by
  induction calls with
  | nil => trivial
  | cons call rest ih =>
      obtain ⟨hcall, hrest⟩ := List.forall_mem_cons.mp h
      rw [Alternate, hcall]
      refine ⟨?_, ih hrest⟩
      intro now hnow
      cases hnow

/-- The tone is turned on and off in turn, so the numbers of times differ by one at most. -/
theorem Alternate.turnCount_eq (h : Alternate playing calls) :
    turnCount true calls + playing.toNat
      = turnCount false calls + (playsAfter playing calls).toNat := by
  induction calls generalizing playing with
  | nil => rfl
  | cons call rest ih =>
      obtain ⟨hturn, hrest⟩ := h
      have hcount := ih hrest
      unfold turnCount playsAfter at hcount ⊢
      rw [List.countP_cons, List.countP_cons, List.foldl_cons]
      cases hcall : call.turns? with
      | none =>
          rw [hcall] at hcount
          simpa using hcount
      | some now =>
          obtain rfl := hturn now hcall
          rw [hcall] at hcount
          cases playing with
          | false | true =>
            simp at hcount ⊢
            omega

theorem PlaysAloud.append (h : PlaysAloud first) (h' : PlaysAloud second) :
    PlaysAloud (first ++ second) := by
  induction first with
  | nil => exact h'
  | cons call rest ih =>
      refine ⟨?_, ih h.2⟩
      intro repeats hplay
      obtain ⟨hrepeats, volume, later, rfl⟩ := h.1 repeats hplay
      exact ⟨hrepeats, volume, later ++ second, rfl⟩

theorem playsAloud_of_no_turn (h : ∀ call ∈ calls, call.turns? = none) : PlaysAloud calls := by
  induction calls with
  | nil => trivial
  | cons call rest ih =>
      obtain ⟨hcall, hrest⟩ := List.forall_mem_cons.mp h
      refine ⟨?_, ih hrest⟩
      rintro repeats rfl
      cases hcall

theorem MakesFirst.append (h : MakesFirst made first)
    (h' : MakesFirst (made || first.any makesSound) second) :
    MakesFirst made (first ++ second) := by
  induction first generalizing made with
  | nil => simpa using h'
  | cons call rest ih =>
      refine ⟨h.1, ih h.2 ?_⟩
      simpa [Bool.or_assoc] using h'

end HostCall

open HostCall

namespace Speaker

/-! ### What is asked of a speaker -/

/-- What a speaker can be asked for. -/
inductive Request where
  | set (on : Bool)
  | shutDown

/-- The speaker and its host after a request; a tone that cannot be made changes nothing. -/
def serve (s : Speaker) (h : Host) : Request → Speaker × Host
  | .set on =>
    match s.set on h with
    | .ok after => after
    | .error _ => (s, h)
  | .shutDown => s.shutDown h

/-- Whether a request was met or there is no tone. -/
def answer (s : Speaker) (h : Host) : Request → Except ToneError Unit
  | .set on => (s.set on h).map fun _ => ()
  | .shutDown => .ok ()

/-- A request, its answer, and the calls that the host received meanwhile. -/
structure Exchange where
  request : Request
  answer : Except ToneError Unit
  calls : List HostCall

/-- The exchange that a request makes. -/
def exchange (s : Speaker) (h : Host) (request : Request) : Exchange where
  request := request
  answer := s.answer h request
  calls := (s.serve h request).2.calls.toList.drop h.calls.toList.length

/-- The speaker and its host after several requests. -/
def serveEach (s : Speaker) (h : Host) : List Request → Speaker × Host
  | [] => (s, h)
  | request :: rest => (s.serve h request).1.serveEach (s.serve h request).2 rest

/-- The exchanges that several requests make. -/
def exchanges (s : Speaker) (h : Host) : List Request → List Exchange
  | [] => []
  | request :: rest =>
    s.exchange h request :: (s.serve h request).1.exchanges (s.serve h request).2 rest

/-- The calls of some exchanges, in order. -/
def callsOf (log : List Exchange) : List HostCall := log.flatMap Exchange.calls

@[simp] theorem callsOf_append (log log' : List Exchange) :
    callsOf (log ++ log') = callsOf log ++ callsOf log' := List.flatMap_append

theorem callsOf_cons (e : Exchange) (log : List Exchange) :
    callsOf (e :: log) = e.calls ++ callsOf log := List.flatMap_cons

/-! ### Stages -/

/-- What a speaker holds. -/
inductive Stage where
  | bare
  | tone
  /-- The tone and a channel. -/
  | ready
  /-- Both, and the tone plays. -/
  | playing

namespace Stage

/-- Whether there is a tone. -/
def built : Stage → Bool
  | bare => false
  | tone | ready | playing => true

/-- Whether there is a channel. -/
def granted : Stage → Bool
  | bare | tone => false
  | ready | playing => true

/-- Whether the tone plays. -/
def plays : Stage → Bool
  | playing => true
  | bare | tone | ready => false

/-- The calls by which a stage comes to a tone. -/
def making (bytes : List UInt8) : Stage → List HostCall
  | bare => [.makeSound bytes]
  | tone | ready | playing => []

/-- **The exchanges that lead from one stage to another.** -/
inductive Step : Stage → Exchange → Stage → Prop
  | kept (t : Stage) : Step t ⟨.set t.plays, .ok (), []⟩ t
  | toneless (e : ToneError) : Step .bare ⟨.set true, .error e, []⟩ .bare
  | refused (t : Stage) (bytes : List UInt8) (h : t.granted = false) :
      Step t ⟨.set true, .ok (), t.making bytes ++ [.findChannel true false]⟩ .tone
  | granted (t : Stage) (bytes : List UInt8) (volume : Float) (h : t.granted = false) :
      Step t ⟨.set true, .ok (), t.making bytes
        ++ [.findChannel true true, .play (-1), .setVolume volume]⟩ .playing
  | resumed (volume : Float) :
      Step .ready ⟨.set true, .ok (), [.play (-1), .setVolume volume]⟩ .playing
  | stopped : Step .playing ⟨.set false, .ok (), [.stopChannel]⟩ .ready
  | shutDown (t : Stage) :
      Step t ⟨.shutDown, .ok (), if t.plays then [.stopChannel] else []⟩ .bare

variable {t t' : Stage} {e : Exchange}

theorem Step.hears (h : Step t e t') : Alternate t.plays e.calls ∧
    playsAfter t.plays e.calls = t'.plays ∧ PlaysAloud e.calls := by
  cases h with
  | kept | toneless => exact ⟨trivial, rfl, trivial⟩
  | refused t bytes h | granted t bytes volume h =>
    cases t with
    | bare | tone => simp [making, Alternate, PlaysAloud, playsAfter, turns?, plays]
    | ready | playing => cases h
  | resumed | stopped => simp [Alternate, PlaysAloud, playsAfter, turns?, plays]
  | shutDown t =>
    cases t with
    | bare | tone | ready | playing => simp [Alternate, PlaysAloud, playsAfter, turns?, plays]

/-- What an exchange that is no shut-down adds to what is held. -/
theorem Step.holds (h : Step t e t') (hrequest : e.request ≠ .shutDown) :
    t'.built = (t.built || e.calls.any makesSound) ∧
      t'.granted = (t.granted || e.calls.any grants) ∧
      MakesFirst t.built e.calls ∧
      e.calls.countP makesSound + t.built.toNat ≤ t'.built.toNat ∧
      e.calls.countP grants + t.granted.toNat ≤ t'.granted.toNat := by
  cases h with
  | kept | toneless => simp [MakesFirst]
  | refused t bytes h | granted t bytes volume h =>
    cases t with
    | bare | tone =>
      simp [making, MakesFirst, makesSound, grants, built, Stage.granted, List.countP_cons]
    | ready | playing => cases h
  | resumed | stopped => simp [MakesFirst, makesSound, grants, built, Stage.granted]
  | shutDown => exact absurd rfl hrequest

/-- A request that is met leaves the tone as it asks for, as far as there is a channel. -/
theorem Step.obeys {on : Bool} (h : Step t ⟨.set on, .ok (), calls⟩ t') :
    t'.plays = (on && t'.granted) := by
  cases h with
  | kept t =>
    cases t with
    | bare | tone | ready | playing => rfl
  | refused | granted | resumed | stopped => rfl

/-- Turned on without a channel, a speaker asks its host for one, -/
theorem Step.asks (h : Step t e t') (hrequest : e.request = .set true) (hmet : e.answer = .ok ())
    (hnone : t.granted = false) : ∃ found, .findChannel true found ∈ e.calls := by
  cases h with
  | kept t =>
    cases t with
    | bare | tone => cases hrequest
    | ready | playing => cases hnone
  | toneless => cases hmet
  | refused => exact ⟨false, by simp⟩
  | granted => exact ⟨true, by simp⟩
  | resumed => cases hnone
  | stopped | shutDown => cases hrequest

/-- and as soon as it is granted one, the tone plays. -/
theorem Step.sounds (h : Step t e t') (hgrants : e.calls.any grants = true) :
    ∃ before volume, e.calls
      = before ++ [.findChannel true true, .play (-1), .setVolume volume] := by
  cases h with
  | granted t bytes volume => exact ⟨t.making bytes, volume, rfl⟩
  | kept | toneless | resumed | stopped => cases hgrants
  | refused t bytes _ | shutDown t =>
    cases t with
    | bare | tone | ready | playing => cases hgrants

/-- Asked for what is the case already, a speaker leaves its host alone. -/
theorem Step.idle (h : Step t e t') (hrequest : e.request = .set t.plays) : e.calls = [] := by
  cases h with
  | kept | toneless => rfl
  | refused t bytes h | granted t bytes volume h =>
    cases t with
    | bare | tone => cases hrequest
    | ready | playing => cases h
  | resumed | stopped | shutDown => cases hrequest

theorem Step.eq_bare (h : Step t e t') (hrequest : e.request = .shutDown) : t' = .bare := by
  cases h with
  | shutDown => rfl
  | kept | toneless | refused | granted | resumed | stopped => cases hrequest

/-! ### Paths -/

/-- Exchanges one after the other. -/
inductive Path : Stage → List Exchange → Stage → Prop
  | nil (t : Stage) : Path t [] t
  | cons {t t' t'' : Stage} {e : Exchange} {log : List Exchange} (first : Step t e t')
      (rest : Path t' log t'') : Path t (e :: log) t''

variable {log log' : List Exchange} {t'' : Stage}

theorem Path.split (h : Path t (log ++ log') t'') : ∃ t', Path t log t' ∧ Path t' log' t'' := by
  induction log generalizing t with
  | nil => exact ⟨t, .nil t, h⟩
  | cons e rest ih =>
      cases h with
      | cons first h =>
          obtain ⟨t', hrest, h'⟩ := ih h
          exact ⟨t', .cons first hrest, h'⟩

theorem Path.hears (h : Path t log t') : Alternate t.plays (callsOf log) ∧
    playsAfter t.plays (callsOf log) = t'.plays ∧ PlaysAloud (callsOf log) := by
  induction h with
  | nil => exact ⟨trivial, rfl, trivial⟩
  | cons first rest ih =>
      obtain ⟨halternate, hplays, haloud⟩ := first.hears
      obtain ⟨halternate', hplays', haloud'⟩ := ih
      rw [callsOf_cons, playsAfter_append, hplays]
      exact ⟨halternate.append (hplays ▸ halternate'), hplays', haloud.append haloud'⟩

theorem Path.holds (h : Path t log t') (hrequests : ∀ e ∈ log, e.request ≠ .shutDown) :
    t'.built = (t.built || (callsOf log).any makesSound) ∧
      t'.granted = (t.granted || (callsOf log).any grants) ∧
      MakesFirst t.built (callsOf log) ∧
      (callsOf log).countP makesSound + t.built.toNat ≤ t'.built.toNat ∧
      (callsOf log).countP grants + t.granted.toNat ≤ t'.granted.toNat := by
  induction h with
  | nil t => simp [callsOf, MakesFirst]
  | cons first rest ih =>
      obtain ⟨hrequest, hrequests⟩ := List.forall_mem_cons.mp hrequests
      obtain ⟨hbuilt, hgranted, hfirst, hsounds, hchannels⟩ := first.holds hrequest
      obtain ⟨hbuilt', hgranted', hfirst', hsounds', hchannels'⟩ := ih hrequests
      rw [callsOf_cons, List.any_append, List.any_append, ← Bool.or_assoc, ← Bool.or_assoc,
        ← hbuilt, ← hgranted, List.countP_append, List.countP_append]
      exact ⟨hbuilt', hgranted', hfirst.append (hbuilt ▸ hfirst'), by omega, by omega⟩

end Stage

/-! ### The protocol -/

/-- Whether some exchanges are none or end in a shut-down. -/
def Closed (log : List Exchange) : Prop := ∀ e ∈ log.getLast?, e.request = .shutDown

/-- Whether there is no shut-down among some exchanges. -/
def Unbroken (log : List Exchange) : Prop := ∀ e ∈ log, e.request ≠ .shutDown

/-- What holds of the exchanges of a speaker that starts with nothing. -/
structure Protocol (log : List Exchange) : Prop where
  alternate : Alternate false (callsOf log)
  aloud : PlaysAloud (callsOf log)
  /-- The tone is as was asked for, as far as a channel was granted since the last shut-down. -/
  obeys : ∀ before recent on calls after,
    log = before ++ recent ++ ⟨.set on, .ok (), calls⟩ :: after → Closed before → Unbroken recent →
      playsAfter false (callsOf before ++ callsOf recent ++ calls)
        = (on && (callsOf recent ++ calls).any grants)
  /-- Turned on while no channel was granted since the last shut-down, it asks for one. -/
  asks : ∀ before recent calls after,
    log = before ++ recent ++ ⟨.set true, .ok (), calls⟩ :: after → Closed before →
      Unbroken recent → (callsOf recent).any grants = false →
        ∃ found, .findChannel true found ∈ calls
  /-- A channel that is granted is played on at once. -/
  sounds : ∀ e ∈ log, e.calls.any grants = true →
    ∃ before volume, e.calls
      = before ++ [.findChannel true true, .play (-1), .setVolume volume]
  /-- A request for what is the case already makes no call. -/
  idle : ∀ before on answer calls after, log = before ++ ⟨.set on, answer, calls⟩ :: after →
    playsAfter false (callsOf before) = on → calls = []
  once : ∀ before between after, log = before ++ between ++ after → Unbroken between →
    (callsOf between).countP makesSound ≤ 1 ∧ (callsOf between).countP grants ≤ 1
  toneFirst : ∀ before between after, log = before ++ between ++ after → Closed before →
    Unbroken between → MakesFirst false (callsOf between)
  /-- After a shut-down the tone was turned off as often as on. -/
  stopped : ∀ before answer calls after, log = before ++ ⟨.shutDown, answer, calls⟩ :: after →
    turnCount true (callsOf before ++ calls) = turnCount false (callsOf before ++ calls) ∧
      playsAfter false (callsOf before ++ calls) = false

namespace Stage

variable {t t' : Stage} {e : Exchange} {log log' : List Exchange}

theorem Path.eq_bare (h : Path .bare log t) (hclosed : Closed log) : t = .bare := by
  rcases List.eq_nil_or_concat log with rfl | ⟨before, e, rfl⟩
  · cases h
    rfl
  · rw [List.concat_eq_append] at h hclosed
    obtain ⟨t', -, hlast⟩ := h.split
    cases hlast with
    | cons first rest =>
        cases rest
        exact first.eq_bare (hclosed e (by simp))

/-- The exchange in the middle of a path, with the stages around it. -/
theorem Path.split_cons (h : Path t (log ++ e :: log') t') :
    ∃ u u', Path t log u ∧ Step u e u' ∧ Path u' log' t' := by
  obtain ⟨u, hbefore, hrest⟩ := h.split
  cases hrest with
  | cons first rest => exact ⟨u, _, hbefore, first, rest⟩

/-- **Whatever follows the stages from the first one on keeps to the protocol.** -/
theorem Path.protocol (h : Path .bare log t) : Protocol log where
  alternate := h.hears.1
  aloud := h.hears.2.2
  obeys before recent on calls after hlog hclosed hunbroken := by
    rw [hlog] at h
    obtain ⟨u, u', hbefore, hstep, -⟩ := h.split_cons
    have hplays := hbefore.hears.2.1
    obtain ⟨v, hclosing, hrecent⟩ := hbefore.split
    obtain rfl := hclosing.eq_bare hclosed
    have hgranted := (hrecent.holds hunbroken).2.1
    have hgranted' := (hstep.holds (by simp)).2.1
    rw [callsOf_append] at hplays
    rw [playsAfter_append, show playsAfter false _ = u.plays from hplays, hstep.hears.2.1,
      hstep.obeys, hgranted', hgranted, List.any_append]
    rfl
  asks before recent calls after hlog hclosed hunbroken hnone := by
    rw [hlog] at h
    obtain ⟨u, u', hbefore, hstep, -⟩ := h.split_cons
    obtain ⟨v, hclosing, hrecent⟩ := hbefore.split
    obtain rfl := hclosing.eq_bare hclosed
    refine hstep.asks rfl rfl ?_
    rw [(hrecent.holds hunbroken).2.1, hnone]
    rfl
  sounds e he hgrants := by
    obtain ⟨before, after, hlog⟩ := List.append_of_mem he
    rw [hlog] at h
    obtain ⟨u, u', -, hstep, -⟩ := h.split_cons
    exact hstep.sounds hgrants
  idle before on answer calls after hlog hon := by
    rw [hlog] at h
    obtain ⟨u, u', hbefore, hstep, -⟩ := h.split_cons
    have hplays : playsAfter false (callsOf before) = u.plays := hbefore.hears.2.1
    exact hstep.idle (by rw [← hon, hplays])
  once before between after hlog hunbroken := by
    rw [hlog] at h
    obtain ⟨u, hbefore, -⟩ := h.split
    obtain ⟨v, -, hbetween⟩ := hbefore.split
    obtain ⟨-, -, -, hsounds, hchannels⟩ := hbetween.holds hunbroken
    have hbuilt := u.built.toNat_le
    have hgranted := u.granted.toNat_le
    exact ⟨by omega, by omega⟩
  toneFirst before between after hlog hclosed hunbroken := by
    rw [hlog] at h
    obtain ⟨u, hbefore, -⟩ := h.split
    obtain ⟨v, hclosing, hbetween⟩ := hbefore.split
    obtain rfl := hclosing.eq_bare hclosed
    exact (hbetween.holds hunbroken).2.2.1
  stopped before answer calls after hlog := by
    rw [hlog] at h
    obtain ⟨u, u', hbefore, hstep, -⟩ := h.split_cons
    obtain ⟨halternate, hplays, -⟩ := hbefore.hears
    obtain ⟨halternate', hplays', -⟩ := hstep.hears
    obtain rfl := hstep.eq_bare rfl
    have hall : Alternate false (callsOf before ++ calls) :=
      Alternate.append halternate (hplays ▸ halternate')
    have hoff : playsAfter false (callsOf before ++ calls) = false := by
      rw [playsAfter_append, show playsAfter false _ = u.plays from hplays, hplays']
      rfl
    have hcount := hall.turnCount_eq
    rw [hoff] at hcount
    exact ⟨Nat.add_right_cancel hcount, hoff⟩

end Stage

end Speaker

end Chip8
