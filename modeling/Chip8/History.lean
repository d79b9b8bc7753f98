/-
The recent past of a console.

A history keeps the newest steps, as many as its capacity says, for a look back after
a fault.  An entry shows the state just before an instruction ran; a step that failed
has neither opcode nor mnemonic.

Entries are kept with the newest first, so that recording is a push followed by a
cut, and a history never holds more of them than its capacity.  Everything a reader sees
is in the order of execution.  Recording a run at once or step by step comes to the same
(`append_eq_foldl`).
-/
import Chip8.Processor.Step

namespace Chip8

/-- The part of a state that an entry shows. -/
structure Snapshot where
  pc : Int
  index : Int
  delay : Int
  sound : Int
  depth : Int
  registers : List UInt8

/-- The shown part of a core. -/
def Core.snapshot (c : Core) : Snapshot where
  pc := c.pc
  index := c.index
  delay := c.delay.toNat
  sound := c.sound.toNat
  depth := c.stack.length
  registers := c.v.toList

/-- A state just before an instruction ran. -/
structure Entry where
  snapshot : Snapshot
  /-- The opcode, unless the step failed. -/
  opcode : Option Int
  mnemonic : String
  note : String

namespace Entry

/-- The entry of a step; program counter, index and opcode are cut to sixteen bits. -/
def make (s : Snapshot) (opcode : Option Int) (mnemonic note : String) : Entry where
  snapshot := { s with pc := wrap16 s.pc, index := wrap16 s.index }
  opcode := opcode.map wrap16
  mnemonic
  note

/-- The entry of a recorded step. -/
def ofRecord (r : StepRecord) : Entry :=
  match r.outcome with
  | .completed decoded =>
    make r.before.snapshot (some decoded.opcode) decoded.instruction.mnemonic ""
  | .failed _ _ => make r.before.snapshot none "" "fault"

/-- Addresses are shown by three digits. -/
def addressStyle : HexStyle := ⟨3, true, false⟩

/-- The opcode column. -/
def opcodeText : Option Int → String
  | some opcode => Fault.opcodeStyle.write opcode
  | none => "????"

/-- The mnemonic column, at least four characters wide. -/
def mnemonicText (mnemonic : String) : String :=
  let text := if mnemonic = "" then "?" else mnemonic
  text ++ String.ofList (List.replicate (4 - text.length) ' ')

/-- The line of an entry. -/
def line (e : Entry) : String :=
  let s := e.snapshot
  addressStyle.write s.pc ++ ": " ++ opcodeText e.opcode ++ " " ++ mnemonicText e.mnemonic
    ++ " I=" ++ addressStyle.write s.index ++ " DT=" ++ HexStyle.byte.write s.delay
    ++ " ST=" ++ HexStyle.byte.write s.sound ++ " SP=" ++ toString s.depth
    ++ " V=" ++ hexBytes s.registers
    ++ (if e.note = "" then "" else " (" ++ e.note ++ ")")

end Entry

/-- The newest entries. -/
structure History where
  capacity : Nat
  /-- The entries, the newest first. -/
  newest : List Entry
  length_le : newest.length ≤ capacity

namespace History

/-- The complaint about a capacity that holds nothing. -/
def badCapacity : String := "capacity must be positive"

/-- A history without entries. -/
def empty (capacity : Nat) : History := ⟨capacity, [], Nat.zero_le capacity⟩

/-- A history whose capacity is given by an integer, if it can hold an entry. -/
def ofCapacity? (capacity : Int) : Option History :=
  if capacity ≤ 0 then none else some (empty capacity.toNat)

/-- The number of entries. -/
def size (h : History) : Nat := h.newest.length

/-- The history with one more entry; the oldest is given up if there is no room. -/
def push (h : History) (e : Entry) : History :=
  ⟨h.capacity, (e :: h.newest).take h.capacity, List.length_take_le _ _⟩

/-- The history with entries in the order of execution added. -/
def append (h : History) (entries : List Entry) : History :=
  ⟨h.capacity, (entries.reverse ++ h.newest).take h.capacity, List.length_take_le _ _⟩

/-- The newest entries, as many as a limit says or all of them, in the order of execution. -/
def entries (h : History) (limit : Option Int) : List Entry :=
  match limit with
  | none => h.newest.reverse
  | some limit => (h.newest.take limit.toNat).reverse

/-- The newest entry. -/
def last? (h : History) : Option Entry := h.newest.head?

/-- The lines of the newest entries. -/
def lines (h : History) (limit : Option Int) : List String := (h.entries limit).map Entry.line

/-! ### Recording -/

theorem size_empty (capacity : Nat) : (empty capacity).size = 0 := rfl

theorem size_push (h : History) (e : Entry) : (h.push e).size = min (h.size + 1) h.capacity := by
  simp only [push, size, List.length_take, List.length_cons]
  omega

theorem append_nil (h : History) : h.append [] = h := by
  simp [append, List.take_of_length_le h.length_le]

/-- Adding entries one by one or all at once gives the same history. -/
theorem append_cons (h : History) (e : Entry) (rest : List Entry) :
    h.append (e :: rest) = (h.push e).append rest := by
  simp only [append, push, List.reverse_cons, List.append_assoc, List.singleton_append]
  congr 1
  rw [List.take_append, List.take_append, List.take_take]
  congr 2
  omega

theorem append_eq_foldl (h : History) (entries : List Entry) :
    h.append entries = entries.foldl push h := by
  induction entries generalizing h with
  | nil => exact h.append_nil
  | cons e rest ih => rw [append_cons, ih, List.foldl_cons]

end History

end Chip8
