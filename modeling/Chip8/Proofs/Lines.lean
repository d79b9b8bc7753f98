/-
What the line of an entry tells.

A line is a row of columns, and each ends at a sign that its text does not contain: the program
counter at a colon, the others at a blank.  So two equal lines agree column by column, from the
left, wherever the columns begin (`eq_of_ended`); no column needs to keep its width.

The last two have no such end.  The registers are followed by the note, if there is one, and the
note begins at the first parenthesis of both together, since digits and blanks are none.

A mnemonic ends at its first blank because it has none itself, and an empty one is told from all
others by its question mark.  The console's own mnemonics are of that kind, so entries that frames
record are never mistaken for one another.
-/
import Chip8.Proofs.Entries
import Chip8.Proofs.Hex

namespace Chip8

namespace Entry

/-! ### Columns -/

/-- A text that does not contain the sign it ends at can be told from what follows. -/
theorem eq_of_ended {c : Char} {text text' rest rest' : List Char} (h : c ∉ text)
    (h' : c ∉ text') (heq : text ++ c :: rest = text' ++ c :: rest') :
    text = text' ∧ rest = rest' := by
  have hread : ∀ {text rest : List Char}, c ∉ text →
      (text ++ c :: rest).takeWhile (· != c) = text := by
    intro text rest h
    rw [List.takeWhile_append_of_pos, List.takeWhile_cons_of_neg, List.append_nil]
    · simp
    · intro d hd
      exact bne_iff_ne.mpr fun he => h (he ▸ hd)
  have htext : text = text' := by rw [← hread h, heq, hread h']
  rw [htext] at heq
  exact ⟨htext, List.tail_eq_of_cons_eq (List.append_cancel_left heq)⟩

theorem bare_addressStyle : addressStyle.Bare := ⟨rfl, rfl⟩

theorem bare_opcodeStyle : Fault.opcodeStyle.Bare := ⟨rfl, rfl⟩

/-- A number ends at any sign that is no digit. -/
theorem number_inj {style : HexStyle} (hstyle : style.Bare) {c : Char}
    (hc : c ∉ HexStyle.capitals) {m n : Int} (hm : 0 ≤ m) (hn : 0 ≤ n) {rest rest' : List Char}
    (heq : style.chars m ++ c :: rest = style.chars n ++ c :: rest') : m = n ∧ rest = rest' := by
  have hends : ∀ {n : Int}, 0 ≤ n → c ∉ style.chars n :=
    fun hn hmem => hc (hstyle.mem_capitals_of_mem_chars hn hmem)
  obtain ⟨hchars, hrest⟩ := eq_of_ended (hends hm) (hends hn) heq
  exact ⟨hstyle.chars_inj hm hn hchars, hrest⟩

theorem toList_toString (n : Nat) : (toString (n : Int)).toList = Nat.toDigits 10 n :=
  String.toList_ofList

/-- A decimal number ends at a blank. -/
theorem decimal_inj {m n : Int} (hm : 0 ≤ m) (hn : 0 ≤ n) {rest rest' : List Char}
    (heq : (toString m).toList ++ ' ' :: rest = (toString n).toList ++ ' ' :: rest') :
    m = n ∧ rest = rest' := by
  have hends : ∀ n : Nat, ' ' ∉ Nat.toDigits 10 n := fun n hmem =>
    absurd (Nat.isDigit_of_mem_toDigits (by decide) (by decide) hmem) (by decide)
  obtain ⟨m, rfl⟩ := Int.eq_ofNat_of_zero_le hm
  obtain ⟨n, rfl⟩ := Int.eq_ofNat_of_zero_le hn
  rw [toList_toString, toList_toString] at heq
  obtain ⟨hdigits, hrest⟩ := eq_of_ended (hends m) (hends n) heq
  have hvalue : m = n := by
    rw [← Nat.ofDigitChars_ten_toDigits (n := m), hdigits, Nat.ofDigitChars_ten_toDigits]
  exact ⟨congrArg Int.ofNat hvalue, hrest⟩

/-! ### Opcodes -/

variable {opcode opcode' : Option Int}

theorem toList_opcodeText_some (n : Int) :
    (opcodeText (some n)).toList = Fault.opcodeStyle.chars n := String.toList_ofList

/-- Question marks are no digits. -/
theorem opcodeText_some_ne_none {n : Int} (hn : 0 ≤ n) :
    opcodeText (some n) ≠ opcodeText none := by
  intro heq
  have hmark : '?' ∈ (opcodeText none).toList := by decide
  rw [← heq, toList_opcodeText_some] at hmark
  exact absurd (bare_opcodeStyle.mem_capitals_of_mem_chars hn hmark) (by decide)

theorem opcodeText_inj (h : ∀ n ∈ opcode, 0 ≤ n) (h' : ∀ n ∈ opcode', 0 ≤ n)
    (heq : opcodeText opcode = opcodeText opcode') : opcode = opcode' := by
  cases opcode with
  | none =>
      cases opcode' with
      | none => rfl
      | some n => exact absurd heq.symm (opcodeText_some_ne_none (h' n rfl))
  | some m =>
      cases opcode' with
      | none => exact absurd heq (opcodeText_some_ne_none (h m rfl))
      | some n =>
          have hchars := congrArg String.toList heq
          rw [toList_opcodeText_some, toList_opcodeText_some] at hchars
          rw [bare_opcodeStyle.chars_inj (h m rfl) (h' n rfl) hchars]

theorem blank_not_mem_opcodeText (h : ∀ n ∈ opcode, 0 ≤ n) :
    ' ' ∉ (opcodeText opcode).toList := by
  cases opcode with
  | none => decide
  | some n =>
      rw [toList_opcodeText_some]
      intro hmem
      exact absurd (bare_opcodeStyle.mem_capitals_of_mem_chars (h n rfl) hmem) (by decide)

/-! ### Mnemonics -/

/-- What is shown of a mnemonic, without the blanks that fill up its column. -/
def shown (mnemonic : String) : List Char := (if mnemonic = "" then "?" else mnemonic).toList

variable {mnemonic mnemonic' : String}

theorem toList_mnemonicText (mnemonic : String) : (mnemonicText mnemonic).toList
    = shown mnemonic ++ List.replicate (4 - (shown mnemonic).length) ' ' := by
  rw [mnemonicText, String.toList_append, String.toList_ofList]
  rfl

theorem shown_inj (h : mnemonic ≠ "?") (h' : mnemonic' ≠ "?")
    (heq : shown mnemonic = shown mnemonic') : mnemonic = mnemonic' := by
  rw [shown, shown, String.toList_inj] at heq
  by_cases hempty : mnemonic = ""
  · by_cases hempty' : mnemonic' = ""
    · rw [hempty, hempty']
    · rw [if_pos hempty, if_neg hempty'] at heq
      exact absurd heq.symm h'
  · by_cases hempty' : mnemonic' = ""
    · rw [if_neg hempty, if_pos hempty'] at heq
      exact absurd heq h
    · rw [if_neg hempty, if_neg hempty'] at heq
      exact heq

theorem blank_not_mem_shown (h : ' ' ∉ mnemonic.toList) : ' ' ∉ shown mnemonic := by
  rw [shown]
  split
  · decide
  · exact h

/-- A mnemonic without blanks ends at the first blank, be it one that fills up the column. -/
theorem mnemonic_inj (h : ' ' ∉ mnemonic.toList) (h' : ' ' ∉ mnemonic'.toList)
    (hne : mnemonic ≠ "?") (hne' : mnemonic' ≠ "?") {rest rest' : List Char}
    (heq : (mnemonicText mnemonic).toList ++ ' ' :: rest
      = (mnemonicText mnemonic').toList ++ ' ' :: rest') :
    mnemonic = mnemonic' ∧ rest = rest' := by
  have hfill : ∀ (count : Nat) (rest : List Char),
      List.replicate count ' ' ++ ' ' :: rest = ' ' :: (List.replicate count ' ' ++ rest) := by
    intro count rest
    rw [← List.cons_append, ← List.replicate_succ, List.replicate_succ', List.append_assoc,
      List.singleton_append]
  rw [toList_mnemonicText, toList_mnemonicText, List.append_assoc, List.append_assoc, hfill,
    hfill] at heq
  obtain ⟨hshown, hrest⟩ := eq_of_ended (blank_not_mem_shown h) (blank_not_mem_shown h') heq
  rw [hshown] at hrest
  exact ⟨shown_inj hne hne' hshown, List.append_cancel_left hrest⟩

/-! ### Registers and note -/

variable {e e' : Entry}

/-- The note in its parentheses, if there is one. -/
def noted (note : String) : List Char :=
  if note = "" then [] else ' ' :: '(' :: (note.toList ++ [')'])

theorem toList_note (note : String) :
    (if note = "" then "" else " (" ++ note ++ ")").toList = noted note := by
  rw [noted]
  split
  · rfl
  · rw [String.toList_append, String.toList_append]
    rfl

theorem noted_empty : noted "" = [] := if_pos rfl

theorem append_noted {note : String} (h : note ≠ "") (text : List Char) :
    text ++ noted note = (text ++ [' ']) ++ '(' :: (note.toList ++ [')']) := by
  rw [noted, if_neg h, List.append_assoc, List.singleton_append]

theorem parenthesis_not_mem_hexBytes (bytes : List UInt8) : '(' ∉ (hexBytes bytes).toList := by
  intro hmem
  rcases mem_hexBytes hmem with hblank | hdigit
  · exact absurd hblank (by decide)
  · exact absurd hdigit (by decide)

/-- Registers alone are not mistaken for registers with a note. -/
theorem hexBytes_ne_noted (bytes bytes' : List UInt8) {note : String} (h : note ≠ "") :
    (hexBytes bytes).toList ≠ (hexBytes bytes').toList ++ noted note := by
  intro heq
  refine parenthesis_not_mem_hexBytes bytes ?_
  rw [heq, append_noted h]
  exact List.mem_append_right _ List.mem_cons_self

/-- The note begins at the first parenthesis. -/
theorem ending_inj {bytes bytes' : List UInt8} {note note' : String}
    (heq : (hexBytes bytes).toList ++ noted note = (hexBytes bytes').toList ++ noted note') :
    bytes = bytes' ∧ note = note' := by
  by_cases hnote : note = ""
  · rw [hnote, noted_empty, List.append_nil] at heq
    by_cases hnote' : note' = ""
    · rw [hnote', noted_empty, List.append_nil] at heq
      exact ⟨hexBytes_inj (String.toList_injective heq), hnote.trans hnote'.symm⟩
    · exact absurd heq (hexBytes_ne_noted _ _ hnote')
  · by_cases hnote' : note' = ""
    · rw [hnote', noted_empty, List.append_nil] at heq
      exact absurd heq.symm (hexBytes_ne_noted _ _ hnote)
    · have hends : ∀ bytes, '(' ∉ (hexBytes bytes).toList ++ [' '] := by
        intro bytes hmem
        rcases List.mem_append.mp hmem with hmem | hmem
        · exact parenthesis_not_mem_hexBytes bytes hmem
        · exact absurd hmem (by decide)
      rw [append_noted hnote, append_noted hnote'] at heq
      obtain ⟨hbytes, hrest⟩ := eq_of_ended (hends bytes) (hends bytes') heq
      have hregisters := String.toList_injective (List.append_cancel_right hbytes)
      have hnotes := String.toList_injective (List.append_cancel_right hrest)
      exact ⟨hexBytes_inj hregisters, hnotes⟩

/-! ### Lines -/

/-- The columns behind the mnemonic. -/
def numbers (e : Entry) : List Char :=
  "I=".toList ++ (addressStyle.chars e.snapshot.index ++ ' ' ::
    ("DT=".toList ++ (HexStyle.byte.chars e.snapshot.delay ++ ' ' ::
      ("ST=".toList ++ (HexStyle.byte.chars e.snapshot.sound ++ ' ' ::
        ("SP=".toList ++ ((toString e.snapshot.depth).toList ++ ' ' ::
          ("V=".toList ++ ((hexBytes e.snapshot.registers).toList ++ noted e.note)))))))))

theorem toList_line (e : Entry) :
    e.line.toList = addressStyle.chars e.snapshot.pc ++ ':' :: ' ' ::
      ((opcodeText e.opcode).toList ++ ' ' ::
        ((mnemonicText e.mnemonic).toList ++ ' ' :: e.numbers)) := by
  unfold line
  simp only [HexStyle.write, String.toList_append, String.toList_ofList, toList_note,
    List.append_assoc]
  rfl

/-- An entry whose numbers are not negative and whose mnemonic has no blank and is none that an
empty one is shown as. -/
structure Plain (e : Entry) : Prop where
  pc : 0 ≤ e.snapshot.pc
  opcode : ∀ n ∈ e.opcode, 0 ≤ n
  noBlank : ' ' ∉ e.mnemonic.toList
  noMark : e.mnemonic ≠ "?"
  index : 0 ≤ e.snapshot.index
  delay : 0 ≤ e.snapshot.delay
  sound : 0 ≤ e.snapshot.sound
  depth : 0 ≤ e.snapshot.depth

theorem numbers_inj (h : e.Plain) (h' : e'.Plain) (heq : e.numbers = e'.numbers) :
    e.snapshot.index = e'.snapshot.index ∧ e.snapshot.delay = e'.snapshot.delay ∧
      e.snapshot.sound = e'.snapshot.sound ∧ e.snapshot.depth = e'.snapshot.depth ∧
      e.snapshot.registers = e'.snapshot.registers ∧ e.note = e'.note := by
  have hblank : ' ' ∉ HexStyle.capitals := by decide
  obtain ⟨hindex, heq⟩ :=
    number_inj bare_addressStyle hblank h.index h'.index (List.append_cancel_left heq)
  obtain ⟨hdelay, heq⟩ :=
    number_inj HexStyle.bare_byte hblank h.delay h'.delay (List.append_cancel_left heq)
  obtain ⟨hsound, heq⟩ :=
    number_inj HexStyle.bare_byte hblank h.sound h'.sound (List.append_cancel_left heq)
  obtain ⟨hdepth, heq⟩ := decimal_inj h.depth h'.depth (List.append_cancel_left heq)
  obtain ⟨hregisters, hnote⟩ := ending_inj (List.append_cancel_left heq)
  exact ⟨hindex, hdelay, hsound, hdepth, hregisters, hnote⟩

/-- **Equal lines are lines of equal entries.** -/
theorem Plain.eq_of_line (h : e.Plain) (h' : e'.Plain) (heq : e.line = e'.line) : e = e' := by
  have hchars := congrArg String.toList heq
  rw [toList_line, toList_line] at hchars
  obtain ⟨hpc, hchars⟩ := number_inj bare_addressStyle (by decide) h.pc h'.pc hchars
  obtain ⟨hopcode, hchars⟩ := eq_of_ended (blank_not_mem_opcodeText h.opcode)
    (blank_not_mem_opcodeText h'.opcode) (List.tail_eq_of_cons_eq hchars)
  obtain ⟨hmnemonic, hchars⟩ := mnemonic_inj h.noBlank h'.noBlank h.noMark h'.noMark hchars
  obtain ⟨hindex, hdelay, hsound, hdepth, hregisters, hnote⟩ := numbers_inj h h' hchars
  have hopcode := opcodeText_inj h.opcode h'.opcode (String.toList_injective hopcode)
  obtain ⟨⟨pc, index, delay, sound, depth, registers⟩, opcode, mnemonic, note⟩ := e
  dsimp only at hpc hindex hdelay hsound hdepth hregisters hopcode hmnemonic hnote
  rw [hpc, hindex, hdelay, hsound, hdepth, hregisters, hopcode, hmnemonic, hnote]

/-! ### Entries that frames record -/

/-- Whether all mnemonics of a table can be told from the columns around them. -/
def Legible (table : DecodeTable) : Prop :=
  ∀ word i, table.lookup word = some i → ' ' ∉ i.mnemonic.toList ∧ i.mnemonic ≠ "?"

theorem legible_standard : Legible .standard := by
  have hall : ∀ i ∈ instructionSet, ' ' ∉ i.mnemonic.toList ∧ i.mnemonic ≠ "?" := by decide
  intro word i hl
  rw [DecodeTable.lookup_standard, Option.or_eq_some_iff] at hl
  rcases hl with hl | ⟨-, hl⟩
  · exact hall i (List.mem_of_find?_eq_some hl)
  · exact hall i (List.mem_of_find?_eq_some hl)

theorem plain_of_shows {p : Processor} (h : p.Bounded) (ht : Legible p.table)
    (hs : p.Shows e) : e.Plain := by
  have hplain : ∀ {s opcode mnemonic note}, p.Depicts s → (∀ n ∈ opcode, 0 ≤ n) →
      ' ' ∉ mnemonic.toList → mnemonic ≠ "?" → Plain ⟨s, opcode, mnemonic, note⟩ := by
    intro s opcode mnemonic note hs hopcode hblank hmark
    rw [hs.eq_mk]
    exact ⟨h.core.pc_nonneg, hopcode, hblank, hmark, h.core.index_nonneg, Int.natCast_nonneg _,
      Int.natCast_nonneg _, Int.natCast_nonneg _⟩
  cases hs with
  | completed _ hl hs =>
      obtain ⟨hblank, hmark⟩ := ht _ _ hl
      refine hplain hs ?_ hblank hmark
      rintro n ⟨⟩
      exact p.opcode_nonneg
  | failed _ hs => exact hplain hs (fun n hn => by cases hn) (by decide) (by decide)

/--
The entries that frames record, of any program, whatever the host asks for and however many
entries are kept.
-/
inductive Recorded : Entry → Prop
  | shown {image : Array UInt8} {setup : Processor.Setup} {clock : Clock} {capacity : Int}
      {c : Console} {requests : List Console.Request} {history : History} {e : Entry}
      (ht : Legible setup.table)
      (hc : Console.start image setup clock (History.ofCapacity? capacity) = .ok c)
      (hhistory : (c.serveEach requests).history = some history)
      (he : e ∈ history.entries none) : Recorded e

theorem entries_of_capacity {capacity : Int} {history : History}
    (h : History.ofCapacity? capacity = some history) : history.entries none = [] := by
  rw [History.ofCapacity?] at h
  split at h
  · cases h
  · cases h
    rfl

theorem Recorded.plain (h : e.Recorded) : e.Plain := by
  obtain @⟨image, setup, clock, capacity, c, requests, history, _, ht, hc, hhistory, he⟩ := h
  obtain ⟨-, -, hfit, rfl⟩ := Console.start_eq_ok_iff.mp hc
  have hreach : Processor.Reachable setup (Processor.loaded image setup) :=
    Processor.reachable_loaded hfit
  rw [Console.history_serveEach, Option.map_eq_some_iff] at hhistory
  obtain ⟨fresh, hfresh, rfl⟩ := hhistory
  rw [History.entries_append, entries_of_capacity hfresh, List.nil_append] at he
  obtain ⟨p, hp, rfl⟩ := List.mem_map.mp (List.mem_of_mem_drop he)
  have hp := Console.reachable_of_mem_attempts hreach hp
  exact plain_of_shows hp.bounded (hp.table ▸ ht) hp.bounded.shows_record

/--
**The line of an entry loses nothing.**  Entries whose numbers are not negative and whose mnemonics
can be told from the columns around them have the same line only if they are the same.  Entries that
frames record are of this kind, with the standard table and any other that is legible, so two
different ones are always printed differently.
-/
theorem line_loses_nothing :
    (∀ e e' : Entry, e.Plain → e'.Plain → e.line = e'.line → e = e') ∧
    Legible .standard ∧
    (∀ e e' : Entry, e.Recorded → e'.Recorded → e ≠ e' → e.line ≠ e'.line) := by
  refine ⟨?_, legible_standard, ?_⟩
  · intro e e' h h' heq
    exact h.eq_of_line h' heq
  · intro e e' h h' hne heq
    exact hne (h.plain.eq_of_line h'.plain heq)

/-- A fault as far from the program as an entry can show, and what is noted about it. -/
def farFault (note : String) : Entry :=
  ⟨⟨0x10FE, 0xFFFF, 0xFF, 0, 16, [0x00, 0xAB]⟩, none, "", note⟩

theorem plain_farFault (note : String) : (farFault note).Plain := by
  have hopcode : ∀ n ∈ (farFault note).opcode, 0 ≤ n := fun n hn => by cases hn
  refine ⟨?_, hopcode, ?_, ?_, ?_, ?_, ?_, ?_⟩ <;> dsimp only [farFault] <;> decide

/-- The instruction that is completed and the return behind it. -/
theorem recorded_lateConsole : ∃ e e' : Entry, e.Recorded ∧ e'.Recorded ∧
    e.opcode = some 0x6001 ∧ e'.opcode = none := by
  obtain ⟨decoded, hfirst⟩ := Processor.step_lateReturn
  obtain ⟨q, reached, hsecond⟩ := Processor.step_lateReturner
  have hattempts : Console.lateConsole.attempts [.frame]
      = [Console.lateConsole.processor, Processor.lateReturner] := by
    show (Processor.loaded Processor.lateReturn Processor.plainSetup).tried 10 ++ [] = _
    rw [Processor.tried_succ_of_completed hfirst, Processor.tried_succ_of_failed hsecond]
    rfl
  have hrecorded : ∀ p ∈ Console.lateConsole.attempts [.frame],
      (Entry.ofRecord p.record).Recorded := by
    have hstart : Console.start Processor.lateReturn Processor.plainSetup Clock.standard
        (History.ofCapacity? 4) = .ok Console.lateConsole :=
      Console.start_eq_ok_iff.mpr ⟨by decide, by decide, Processor.fits_lateReturn, rfl⟩
    intro p hp
    refine .shown legible_standard hstart (Console.history_serveEach _ [.frame]) ?_
    rw [History.entries_append, hattempts]
    rw [hattempts] at hp
    exact List.mem_map_of_mem hp
  rw [hattempts] at hrecorded
  refine ⟨_, _, hrecorded _ List.mem_cons_self,
    hrecorded _ (List.mem_cons_of_mem _ List.mem_cons_self), ?_, ?_⟩
  · have hopcode : Console.lateConsole.processor.opcode = 0x6001 :=
      Processor.opcode_of_image Processor.fits_lateReturn rfl (k := 0) rfl (by decide)
    have hd : Console.lateConsole.processor.step.1 = .completed decoded := congrArg Prod.fst hfirst
    rw [ofRecord, Processor.record, hd]
    show some (wrap16 decoded.opcode) = _
    rw [(Processor.lookup_of_completed hd).1, hopcode]
    rfl
  · rw [ofRecord, Processor.record, hsecond]
    rfl

/-- Notes that look like the end of a line do not mislead, and neither does a missing opcode. -/
theorem line_loses_nothing_lateConsole :
    (farFault "fault").line ≠ (farFault "fault) (fault").line ∧
    ∃ e e' : Entry, e.Recorded ∧ e'.Recorded ∧ e.opcode = some 0x6001 ∧ e'.opcode = none ∧
      e.line ≠ e'.line := by
  obtain ⟨hplain, -, hframes⟩ := line_loses_nothing
  obtain ⟨e, e', h, h', hopcode, hopcode'⟩ := recorded_lateConsole
  refine ⟨?_, e, e', h, h', hopcode, hopcode', hframes e e' h h' ?_⟩
  · intro heq
    have hentries := hplain _ _ (plain_farFault _) (plain_farFault _) heq
    exact absurd (congrArg Entry.note hentries) (by decide)
  · rintro rfl
    rw [hopcode] at hopcode'
    cases hopcode'

end Entry

end Chip8
