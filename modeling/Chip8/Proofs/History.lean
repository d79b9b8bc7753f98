/-
The window of a history.

However many steps are recorded, a history shows the last of them, as many as it has room for.
One recording adds an entry at the end and gives up at most one at the front; as cutting the
front twice is cutting it once (`rtake_rtake`), a whole run of recordings cuts the list of all
that was recorded.  A limit cuts once more, so everything a reader can ask for is an end of that
list (`Window`).

A history is printed line by line through a template with one place for a text.  Filling that
place gives the text back, whatever is in it, so a line that has percent signs is printed as it
is.
-/
import Chip8.Proofs.Entries
import Chip8.Proofs.Watching

namespace Chip8

/-! ### Ends of a list -/

theorem rtake_rtake {α : Type} (l : List α) (m n : Nat) :
    (l.rtake m).rtake n = l.rtake (min n m) := by
  simp only [List.rtake_eq_reverse_take_reverse, List.reverse_reverse, List.take_take]

/-- A list has no longer end than itself. -/
theorem rtake_min_length {α : Type} (l : List α) (n : Nat) :
    l.rtake (min l.length n) = l.rtake n := by
  rw [List.rtake, List.rtake]
  congr 1
  omega

theorem length_rtake {α : Type} (l : List α) (n : Nat) : (l.rtake n).length = min l.length n := by
  rw [List.rtake, List.length_drop]
  omega

/-- Every end that is not empty ends as the list does. -/
theorem getLast?_rtake {α : Type} (l : List α) {n : Nat} (hn : 0 < n) :
    (l.rtake n).getLast? = l.getLast? := by
  rw [List.rtake, List.getLast?_drop]
  split
  · rename_i hall
    rw [List.eq_nil_of_length_eq_zero (l := l) (by omega), List.getLast?_nil]
  · rfl

/-! ### Lines through a template -/

namespace Diagnostics

variable {d : Diagnostics}

/-- The template that a line of a history is printed through. -/
def lineTemplate : String := "%s"

theorem fill?_lineTemplate (text : String) :
    Template.fill? lineTemplate [.text text] = some text := by
  have hparts : Template.parts? lineTemplate.toList = some [.place anyText] := rfl
  rw [Template.fill?, hparts]
  simp [Template.fillParts?, fillPlace?_anyText]

/-- A text that is put into the template is printed as it is. -/
theorem logFilled_lineTemplate (d : Diagnostics) (category text : String) :
    d.logFilled category lineTemplate [.text text] = d.log category text := by
  rw [logFilled, if_neg (by simp), filled, fill?_lineTemplate]
  rfl

/-- What is printed of several messages of one category: all of them or none. -/
theorem printed_logEach (d : Diagnostics) (category : String) (messages : List String) :
    (d.logEach category messages).printed.toList = d.printed.toList
      ++ if d.enabled (some category) then messages.map (line category) else [] := by
  induction messages generalizing d with
  | nil =>
      show d.printed.toList = _
      simp
  | cons message rest ih =>
      have henabled : (d.log category message).enabled (some category)
          = d.enabled (some category) := by rw [enabled, active_log, enabled]
      show ((d.log category message).logEach category rest).printed.toList = _
      rw [ih, henabled]
      cases h : d.enabled (some category) with
      | true => simp [log_of_enabled h]
      | false => simp [log_of_disabled h, consulted]

end Diagnostics

/-! ### Recording -/

/-- What is told of a step when it is recorded. -/
structure Recording where
  snapshot : Snapshot
  opcode : Option Int
  mnemonic : String
  note : String

/-- The entry that is made of it. -/
def Recording.entry (r : Recording) : Entry := Entry.make r.snapshot r.opcode r.mnemonic r.note

namespace History

variable {h : History}

/-- The history with one more step recorded. -/
def record (h : History) (r : Recording) : History := h.push r.entry

/-- The history with several steps recorded one after the other. -/
def recordEach (h : History) (recordings : List Recording) : History := recordings.foldl record h

theorem recordEach_eq_append (h : History) (recordings : List Recording) :
    h.recordEach recordings = h.append (recordings.map Recording.entry) := by
  rw [append_eq_foldl, List.foldl_map]
  rfl

/-- **A history shows the end of what was recorded**, as much of it as there is room for. -/
theorem entries_recordEach_empty (capacity : Nat) (recordings : List Recording) :
    ((empty capacity).recordEach recordings).entries none
      = (recordings.map Recording.entry).rtake capacity := by
  rw [recordEach_eq_append, entries_append]
  rfl

/-- A limit shows the end of what is shown without one. -/
theorem entries_limit (h : History) (limit : Int) :
    h.entries (some limit) = (h.entries none).rtake limit.toNat := by
  rw [List.rtake_eq_reverse_take_reverse, entries, entries, List.reverse_reverse]

theorem size_eq (h : History) : h.size = (h.entries none).length := by
  rw [entries, List.length_reverse, size]

theorem last?_eq (h : History) : h.last? = (h.entries none).getLast? := by
  rw [entries, List.getLast?_reverse, last?]

/-! ### What a reader sees -/

/-- What a history of some capacity shows when entries were recorded. -/
structure Window (capacity : Int) (recorded : List Entry) (h : History) : Prop where
  all : h.entries none = recorded.rtake (min (recorded.length : Int) capacity).toNat
  /-- A negative limit shows nothing, and a large one all there is. -/
  limited : ∀ limit : Int, h.entries (some limit)
    = recorded.rtake (min (min (recorded.length : Int) capacity) (max limit 0)).toNat
  size : (h.size : Int) = min (recorded.length : Int) capacity
  /-- The newest entry is never given up. -/
  last : h.last? = (h.entries none).getLast? ∧ h.last? = recorded.getLast?
  lines : ∀ limit, h.lines limit = (h.entries limit).map Entry.line
  /-- Printing offers each line through a template, -/
  offered : ∀ (d : Diagnostics) (category : String) (limit : Option Int),
    d.logHistory category h limit = (h.lines limit).foldl (fun d line =>
      d.logFilled category Diagnostics.lineTemplate [.text line]) d
  /-- and prints all of them in order if the category is printed, or else none. -/
  printed : ∀ (d : Diagnostics) (category : String) (limit : Option Int),
    (d.logHistory category h limit).printed.toList = d.printed.toList
      ++ if d.enabled (some category) then
          (h.lines limit).map fun line => "[CHIP8][" ++ category ++ "] " ++ line
        else []

/--
**A history is a window on the end of what was recorded.**  With any capacity from one on, after
any recordings, a reader sees the last of them in the order of recording: as many as there were,
but no more than the capacity and, if there is one, the limit.  The newest entry, the number of
entries, the lines and what is printed of them are those of what is seen.
-/
theorem window_of_recordings {capacity : Int} (hcapacity : 1 ≤ capacity)
    (recordings : List Recording) :
    ∃ h, ofCapacity? capacity = some h ∧
      Window capacity (recordings.map Recording.entry) (h.recordEach recordings) := by
  obtain ⟨room, rfl⟩ := Int.eq_ofNat_of_zero_le (Int.le_trans (by decide) hcapacity)
  have hempty : ofCapacity? room = some (empty room) := if_neg (by omega)
  refine ⟨_, hempty, ?_⟩
  have hall := entries_recordEach_empty room recordings
  generalize (empty room).recordEach recordings = h at hall
  generalize recordings.map Recording.entry = recorded at hall
  constructor
  case all =>
    rw [hall, ← rtake_min_length]
    congr 1
    omega
  case limited =>
    intro limit
    rw [entries_limit, hall, rtake_rtake, ← rtake_min_length]
    congr 1
    omega
  case size =>
    rw [size_eq, hall, length_rtake]
    omega
  case last =>
    refine ⟨h.last?_eq, ?_⟩
    rw [last?_eq, hall, getLast?_rtake _ (by omega)]
  case lines =>
    intro limit
    rfl
  case offered =>
    intro d category limit
    simp only [Diagnostics.logFilled_lineTemplate]
    rfl
  case printed =>
    intro d category limit
    exact d.printed_logEach category (h.lines limit)

/-- A step that clears the screen, with a note. -/
def noted (note : String) : Recording := ⟨⟨0x200, 0, 0, 0, 0, [0xAB]⟩, some 0x00E0, "CLS", note⟩

/-- Of three recordings a history with room for two has given up the first, and it is printed
under any spelling of its category. -/
theorem window_of_recordings_three :
    ∃ h, ofCapacity? 2 = some h ∧
      let h := h.recordEach [noted "a", noted "b", noted "%s"]
      (h.entries none).map (·.note) = ["b", "%s"] ∧ h.entries (some (-1)) = [] ∧
      (h.entries (some 9)).map (·.note) = ["b", "%s"] ∧ h.size = 2 ∧
      h.last?.map (·.note) = some "%s" ∧
      ((Diagnostics.start (some "cpu, TRACE")).logHistory "Trace" h (some 1)).printed.toList
        = ["[CHIP8][Trace] 200: 00E0 CLS  I=000 DT=00 ST=00 SP=0 V=AB (%s)"] ∧
      ((Diagnostics.start (some "cpu")).logHistory "trace" h none).printed.toList = [] := by
  obtain ⟨h, hempty, hwindow⟩ :=
    window_of_recordings (by decide : (1 : Int) ≤ 2) [noted "a", noted "b", noted "%s"]
  refine ⟨h, hempty, ?_, ?_, ?_, ?_, ?_, ?_, ?_⟩
  · rw [hwindow.all]
    rfl
  · rw [hwindow.limited]
    rfl
  · rw [hwindow.limited]
    rfl
  · exact Int.ofNat_inj.mp hwindow.size
  · rw [hwindow.last.2]
    rfl
  · rw [hwindow.printed, hwindow.lines, hwindow.limited, if_pos (by decide)]
    decide
  · rw [hwindow.printed, if_neg (by decide)]
    rfl

end History

end Chip8
