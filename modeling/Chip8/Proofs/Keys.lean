/-
Keys and the rounds of a window.

A host key stands for a keypad key if its name is that key's character in small letters,
whatever capital letters there are in the world (`Keypad.ofName?_eq_some_iff`).  So an event
tells of a keypad key that it is held, or that it is not, or nothing, and what was told last is
so (`Keypad.heldAfter`).  Frames leave the keypad alone, hence this also goes for what was told
before the frames of earlier rounds.
-/
import Chip8.Proofs.Runs
import Chip8.Text.Lowercase

namespace Chip8

/-! ### Small letters -/

/-- Beyond the basic alphabet the one capital letter whose small letter may lie below the code
point of `z` is the sign of the kelvin; its small letter is `k`, which stands for no key. -/
theorem eq_or_le_of_mem_capitalRuns {run : Nat × Nat × Nat × Int} (h : run ∈ capitalRuns) :
    (run.1 = 65 ∧ run.2.1 = 90) ∨ 128 ≤ run.1 ∧
      (122 < run.1 + run.2.2.2 ∨ run.1 = run.2.1 ∧ run.1 + run.2.2.2 = 107) := by
  have hall : ∀ run ∈ capitalRuns, (run.1 = 65 ∧ run.2.1 = 90) ∨ 128 ≤ run.1 ∧
      (122 < run.1 + run.2.2.2 ∨ run.1 = run.2.1 ∧ run.1 + run.2.2.2 = 107) := by
    decide +kernel
  exact hall run h

/-- In the basic alphabet the small letters are those the keypad goes by. -/
theorem smallLetter_of_lt {c : Char} (h : c.toNat < 128) : smallLetter c = [c.toLower] := by
  by_cases hcapital : 65 ≤ c.toNat ∧ c.toNat ≤ 90
  · have hall : ∀ n < 91, 65 ≤ n → smallLetter (Char.ofNat n) = [(Char.ofNat n).toLower] := by
      decide +kernel
    have hc := hall c.toNat (by omega) hcapital.1
    rw [Char.ofNat_toNat] at hc
    exact hc
  · have hlower : c.toLower = c := dif_neg hcapital
    rw [hlower, smallLetter, if_neg (by omega)]
    split
    · next first last step distance hfind =>
      -- No capital letter is left: the one run in the basic alphabet is the case above.
      have hrun := eq_or_le_of_mem_capitalRuns (List.mem_of_find?_eq_some hfind)
      have hinside := List.find?_some hfind
      simp only [Bool.and_eq_true, decide_eq_true_eq] at hinside
      dsimp only at hrun
      omega
    · rfl

theorem eq_of_ofNat_eq {n : Nat} {d : Char} (h : Char.ofNat n = d) (hd : 0 < d.toNat) :
    n = d.toNat := by
  by_cases hvalid : n.isValidChar
  · rw [Char.ofNat, dif_pos hvalid] at h
    rw [← h]
    rfl
  · -- A number that is no code point becomes the character with number zero.
    rw [Char.ofNat, dif_neg hvalid] at h
    rw [← h] at hd
    cases hd

theorem bounds_of_mem_layout {d : Char} (hd : d ∈ Keypad.layout) :
    0 < d.toNat ∧ d.toNat ≤ 122 ∧ d.toNat ≠ 107 := by
  -- A statement about all characters that lie in the layout would be decided for every character.
  have hall : (Keypad.layout.all fun d =>
      0 < d.toNat && d.toNat ≤ 122 && d.toNat != 107) = true := by decide
  have hbounds := List.all_eq_true.mp hall d hd
  simp only [Bool.and_eq_true, decide_eq_true_eq, bne_iff_ne] at hbounds
  exact ⟨hbounds.1.1, hbounds.1.2, hbounds.2⟩

/-- A capital letter beyond the basic alphabet has no key's character as its small letter. -/
theorem smallLetter_ne {c d : Char} (h : 128 ≤ c.toNat) (hd : d ∈ Keypad.layout) :
    smallLetter c ≠ [d] := by
  obtain ⟨hpos, hle, hk⟩ := bounds_of_mem_layout hd
  intro he
  unfold smallLetter at he
  by_cases hdotted : c.toNat = 0x130
  · rw [if_pos hdotted] at he
    cases he
  rw [if_neg hdotted] at he
  split at he
  · next first last step distance hfind =>
    have hfar := eq_or_le_of_mem_capitalRuns (List.mem_of_find?_eq_some hfind)
    have hinside := List.find?_some hfind
    simp only [Bool.and_eq_true, decide_eq_true_eq] at hinside
    have hsmall := eq_of_ofNat_eq (List.cons.inj he).1 hpos
    dsimp only at hfar
    omega
  · obtain rfl := (List.cons.inj he).1
    omega

theorem length_smallLetter_pos (c : Char) : 0 < (smallLetter c).length := by
  unfold smallLetter
  split
  · exact Nat.succ_pos _
  · split
    · exact Nat.succ_pos _
    · exact Nat.succ_pos _

/-- No character is lost. -/
theorem length_le_lowercaseAfter (before text : List Char) :
    text.length ≤ (lowercaseAfter before text).length := by
  induction text generalizing before with
  | nil => exact Nat.zero_le _
  | cons c rest ih =>
      have hrest := ih (c :: before)
      have hfirst := length_smallLetter_pos c
      rw [lowercaseAfter, List.length_append, List.length_cons]
      split
      · rw [List.length_singleton]
        omega
      · omega

theorem lowercase_singleton (c : Char) : lowercase [c] = smallLetter c := by
  have hstart : startsCased [] = false := rfl
  rw [lowercase, lowercaseAfter, lowercaseAfter, List.append_nil, hstart]
  exact if_neg (by simp)

/-- A key's character is the small letter of the characters that the keypad takes for it. -/
theorem lowercase_eq_singleton_iff {text : List Char} {d : Char} (hd : d ∈ Keypad.layout) :
    lowercase text = [d] ↔ ∃ c, text = [c] ∧ c.toLower = d := by
  have hone : ∀ c : Char, smallLetter c = [d] ↔ c.toLower = d := by
    intro c
    by_cases hc : c.toNat < 128
    · rw [smallLetter_of_lt hc, List.cons.injEq, eq_self_iff_true, and_true]
    · have hlower : c.toLower = c := by
        unfold Char.toLower
        refine dif_neg ?_
        rintro ⟨-, hle⟩
        have hle' : c.toNat ≤ 90 := hle
        omega
      have hle := (bounds_of_mem_layout hd).2.1
      rw [hlower]
      constructor
      · intro he
        exact absurd he (smallLetter_ne (Nat.not_lt.mp hc) hd)
      · rintro rfl
        omega
  constructor
  · intro h
    have hlen := length_le_lowercaseAfter [] text
    rw [← lowercase, h] at hlen
    match text, h, hlen with
    | [], h, _ => cases h
    | [c], h, _ =>
      rw [lowercase_singleton] at h
      exact ⟨c, rfl, (hone c).mp h⟩
    | _ :: _ :: _, _, hlen =>
      simp only [List.length_cons, List.length_nil] at hlen
      omega
  · rintro ⟨c, rfl, hc⟩
    rw [lowercase_singleton]
    exact (hone c).mpr hc

namespace Keypad

variable {name : String} {key : Fin 16}

/-- Whether a host key stands for a key of the keypad: its name in small letters is the one
character that lies at the key's place in the layout. -/
def StandsFor (name : String) (key : Fin 16) : Prop :=
  layout[key.val]?.map (fun c => [c]) = some (lowercase name.toList)

instance (name : String) (key : Fin 16) : Decidable (StandsFor name key) :=
  inferInstanceAs (Decidable (_ = _))

theorem find?_layout (key : Fin 16) :
    ((List.finRange 16).find? fun k => layout[k.val]? == layout[key.val]?) = some key := by
  revert key
  decide

/-- The keypad finds the keys that host keys stand for. -/
theorem ofName?_eq_some_iff : ofName? name = some key ↔ StandsFor name key := by
  obtain ⟨d, hd⟩ : ∃ d, layout[key.val]? = some d := by
    have hlt : key.val < layout.length := key.isLt
    exact ⟨_, List.getElem?_eq_getElem hlt⟩
  have hmem := List.mem_of_getElem? hd
  have hstands : StandsFor name key ↔ ∃ c, name.toList = [c] ∧ c.toLower = d := by
    rw [StandsFor, hd, Option.map_some, Option.some.injEq, ← lowercase_eq_singleton_iff hmem]
    exact eq_comm
  rw [hstands]
  unfold ofName?
  split
  · next c hname =>
    constructor
    · intro hfind
      have hfound := List.find?_some hfind
      rw [hd, beq_iff_eq, Option.some.injEq] at hfound
      exact ⟨c, hname, hfound.symm⟩
    · rintro ⟨c', hname', hc'⟩
      rw [hname, List.cons.injEq] at hname'
      rw [hname'.1, hc', ← hd]
      exact find?_layout key
  · next hname =>
    constructor
    · intro h
      cases h
    · rintro ⟨c, hc, -⟩
      exact absurd hc (hname c)

end Keypad

/-! ### What events say about keys -/

/-- What an event says about a key: that it is held, that it is not, or nothing. -/
def HostEvent.tells (key : Fin 16) : HostEvent → Option Bool
  | .keyDown name => if Keypad.StandsFor name key then some true else none
  | .keyUp name => if Keypad.StandsFor name key then some false else none
  | .quit | .other => none

/-- Whether a key is held after some events.  What was said last is so; if nothing was said, the
key is not held. -/
def Keypad.heldAfter (events : List HostEvent) (key : Fin 16) : Bool :=
  (events.filterMap (·.tells key)).getLast?.getD false

/-! ### Frames leave the keys alone -/

theorem Processor.Completes.keypad {count : Nat} {p q : Processor} (h : Completes count p q) :
    q.keypad = p.keypad := by
  induction h with
  | refl p => rfl
  | @step count p next q decoded hstep _ ih =>
      have hnext := p.keypad_step
      rw [hstep] at hnext
      exact ih.trans hnext

/-! ### What frames and events make of the keypad -/

namespace Console

variable {c ready : Console} {past events : List HostEvent} {batches : List (List HostEvent)}

theorem holds_key (c : Console) (name : String) (down : Bool) (key : Fin 16) :
    (c.key name down).processor.keypad.holds key
      = if Keypad.StandsFor name key then down else c.processor.keypad.holds key := by
  unfold Console.key
  cases hname : Keypad.ofName? name with
  | none =>
      rw [if_neg]
      intro hstands
      rw [Keypad.ofName?_eq_some_iff.mpr hstands] at hname
      cases hname
  | some other =>
      have hiff : other = key ↔ Keypad.StandsFor name key := by
        rw [← Keypad.ofName?_eq_some_iff, hname, Option.some.injEq]
      show (c.processor.keypad.set other down).holds key = _
      rw [Keypad.holds_set]
      exact if_congr hiff rfl rfl

theorem holds_attend (c : Console) (event : HostEvent) (key : Fin 16) :
    (c.attend event).processor.keypad.holds key
      = (event.tells key).getD (c.processor.keypad.holds key) := by
  cases event with
  | quit | other => rfl
  | keyDown name | keyUp name =>
    rw [attend, holds_key, HostEvent.tells]
    split
    · rfl
    · rfl

/-- A keypad that is as the events so far say is so after more of them. -/
theorem holds_foldl_attend
    (h : ∀ key, c.processor.keypad.holds key = Keypad.heldAfter past key) (key : Fin 16) :
    (events.foldl attend c).processor.keypad.holds key = Keypad.heldAfter (past ++ events) key :=
  foldl_told attend (fun c => c.processor.keypad.holds key) (·.tells key)
    (fun c event => holds_attend c event key) (h key) events

theorem keypad_runFrame (c : Console) :
    c.runFrame.console.processor.keypad = c.processor.keypad := by
  rcases Processor.completes_or_cut c.clock.perFrame c.processor with
    ⟨q, hq⟩ | ⟨k, hk, p, fault, reached, q, hp, hstep⟩
  · rw [(runFrame_of_completes hq).2]
    exact hq.keypad
  · have hlast := p.keypad_step
    rw [hstep] at hlast
    rw [(runFrame_of_cutAt ⟨hk, p, reached, hp, hstep⟩).2.2]
    exact hlast.trans hp.keypad

/-- Before a frame the keypad is as all events so far say. -/
theorem holds_played (h : ∀ key, c.processor.keypad.holds key = Keypad.heldAfter past key)
    {i : Nat} (hi : (c.played batches)[i]? = some ready) (key : Fin 16) :
    ready.processor.keypad.holds key
      = Keypad.heldAfter (past ++ (batches.take (i + 1)).flatten) key := by
  induction batches generalizing c past i with
  | nil => cases hi
  | cons events rest ih =>
      have hready : ∀ key, (events.foldl attend c).processor.keypad.holds key
          = Keypad.heldAfter (past ++ events) key := holds_foldl_attend h
      rw [List.take_succ_cons, List.flatten_cons, ← List.append_assoc]
      cases i with
      | zero =>
          obtain rfl := Option.some.inj hi
          rw [List.take_zero, List.flatten_nil, List.append_nil]
          exact hready key
      | succ i =>
          refine ih ?_ hi
          intro key
          rw [← hready key, shown, Processor.acknowledge, keypad_runFrame]

end Console

namespace Window

variable {settings : WindowSettings} {find : FilePath → Finding} {host : Host} {d : Diagnostics}

/--
**The rounds follow the script of events.**  Unless a step faults or the tone cannot be made, a
front end that comes to its rounds ends well.  It goes one round, and so completes one frame,
for each batch up to the first with a wish to quit.  Before each frame a key is held exactly if
the last event about it says so, events behind the wish to quit included; the escape key and
keys without a place on the keypad change nothing.
-/
theorem rounds_follow_script (hloaded : lapsOf settings find host d ≠ [])
    (hfaultless : ∀ l ∈ lapsOf settings find host d, ∀ fault,
      l.ready.console.runFrame.outcome ≠ .error fault)
    (hheard : ∀ l ∈ lapsOf settings find host d, ∀ e, l.result ≠ .error (.noTone e)) :
    (run settings find (some host) d).result = .ok () ∧
    (∃ before last rest, host.batches ++ [[.quit]] = before ++ last :: rest ∧
      (∀ events ∈ before, events.any wantsQuit = false) ∧ last.any wantsQuit = true ∧
      (lapsOf settings find host d).map Lap.events = before ++ [last]) ∧
    (∃ console, (run settings find (some host) d).console = some console ∧
      console.frames = (lapsOf settings find host d).length) ∧
    (∀ i l key, (lapsOf settings find host d)[i]? = some l →
      l.ready.console.processor.keypad.holds key
        = Keypad.heldAfter (((lapsOf settings find host d).map Lap.events).take (i + 1)).flatten
            key) ∧
    ∀ name, (name = "escape" ∨ ∀ key, ¬ Keypad.StandsFor name key) → ∀ s,
      (handleEvent s (.keyDown name)).console = s.console ∧
        (handleEvent s (.keyUp name)).console = s.console := by
  obtain ⟨first, hfirst⟩ := List.exists_mem_of_ne_nil _ hloaded
  obtain ⟨console, hload⟩ := loaded_of_mem_lapsOf hfirst
  obtain ⟨final, hlast, hrun⟩ := run_eq_of_mem_lapsOf hfirst
  have hfinal := List.mem_of_getLast? hlast
  have hok : (run settings find (some host) d).result = .ok () := by
    rw [hrun]
    have hfrom := hfinal
    rw [lapsOf_of_ok hload] at hfrom
    exact (ends_of_mem_laps hfrom).result_of (hfaultless final hfinal) (hheard final hfinal)
  obtain ⟨hevents, hplayed, after, hafter, hframes⟩ := lapsOf_of_run_ok hload hok
  obtain ⟨path, content, -, -, -, -, rfl⟩ := load_eq_ok_iff.mp hload
  obtain ⟨before, last, rest, hsplit, hscript, hquit, hbefore⟩ := script_spec host.batches
  have hlength : (lapsOf settings find host d).length = (script host.batches).length := by
    rw [← hevents, List.length_map]
  refine ⟨hok, ⟨before, last, rest, hsplit, hbefore, hquit, hevents.trans hscript⟩,
    ⟨after, hafter, ?_⟩, ?_, ?_⟩
  · rw [hframes, hlength]
    exact Nat.zero_add _
  · intro i l key hl
    have hready : ((lapsOf settings find host d).map (·.ready.console))[i]?
        = some l.ready.console := by
      rw [List.getElem?_map, hl]
      rfl
    rw [hplayed] at hready
    rw [hevents]
    have hreleased : ∀ key, Keypad.released.holds key = Keypad.heldAfter [] key :=
      Keypad.holds_released
    exact Console.holds_played hreleased hready key
  · intro name hname s
    have hkey : ∀ down, s.console.key name down = s.console := by
      have hnone : Keypad.ofName? name = none := by
        rcases hname with rfl | hname
        · rfl
        · cases hfound : Keypad.ofName? name with
          | none => rfl
          | some key => exact absurd (Keypad.ofName?_eq_some_iff.mp hfound) (hname key)
      intro down
      rw [Console.key, hnone]
    rw [(handleEvent_spec s _).1, (handleEvent_spec s _).1]
    exact ⟨hkey true, hkey false⟩

/-- Some events, with a wish to quit among them. -/
def lastWords : List HostEvent :=
  [.keyDown "Q", .keyDown "x", .keyDown "escape", .keyUp "X", .keyDown "F1"]

/-- Letters count whatever their case, also behind the wish to quit. -/
theorem rounds_follow_script_lastWords :
    ∃ l, lapsOf slowSettings (fun _ => .file clearing) (plainHost [lastWords]) (.start none) = [l] ∧
      (run slowSettings (fun _ => .file clearing) (some (plainHost [lastWords]))
        (.start none)).result = .ok () ∧
      l.ready.console.processor.keypad.holds 4 = true ∧
      l.ready.console.processor.keypad.holds 13 = false := by
  have hok := result_clearing [lastWords] lastWords
  have hlaps : lapsOf slowSettings (fun _ => .file clearing) (plainHost [lastWords]) (.start none)
      = [lap slowSettings lastWords (clearingStart [lastWords])] := by
    rw [lapsOf_clearing]
    exact laps_cons_of_quit hok (by decide)
  obtain ⟨⟨n, houtcome⟩, -⟩ := console_after hok
  rw [← console_ready slowSettings] at houtcome
  have hloaded : lapsOf slowSettings (fun _ => .file clearing) (plainHost [lastWords])
      (.start none) ≠ [] := by
    rw [hlaps]
    exact List.cons_ne_nil _ _
  obtain ⟨hresult, -, -, hkeys, -⟩ := rounds_follow_script hloaded
    (by
      rw [hlaps]
      intro l hl fault hfault
      obtain rfl := List.mem_singleton.mp hl
      rw [houtcome] at hfault
      cases hfault)
    (by
      rw [hlaps]
      intro l hl e he
      obtain rfl := List.mem_singleton.mp hl
      rw [hok] at he
      cases he)
  have hheld := hkeys 0 (lap slowSettings lastWords (clearingStart [lastWords]))
  rw [hlaps] at hheld
  refine ⟨_, hlaps, hresult, ?_, ?_⟩
  · rw [hheld 4 rfl]
    show Keypad.heldAfter lastWords 4 = true
    decide +kernel
  · rw [hheld 13 rfl]
    show Keypad.heldAfter lastWords 13 = false
    decide +kernel

end Window

end Chip8
