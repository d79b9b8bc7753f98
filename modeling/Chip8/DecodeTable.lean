/-
The decode table.

Opcodes are told apart in two levels.  The primary field picks a group; in a group, a
selector names the field of the opcode that is compared with the keys of the
instructions.  An instruction without a key takes every opcode of its group that no
key claims.

A table is built by registering instructions one after the other.  A place can be
taken once only, and a group whose selector reads no field takes no keys; an
instruction that breaks one of these rules is refused and leaves the builder as it
was.  `TableBuilder.freeze` then fixes the table, and later registrations do not reach
a table that is already fixed.
-/
import Chip8.Opcode
import Chip8.Instruction
import Chip8.Text.Hex

namespace Chip8

/-- The field of an opcode that is compared with the keys of a group. -/
inductive Selector where
  | none
  | lowNibble
  | lowByte
  | word
deriving DecidableEq, Repr

/-- The value of the selected field. -/
def Selector.extract : Selector → Opcode → Option Int
  | .none, _ => Option.none
  | .lowNibble, opcode => some (opcode % 16)
  | .lowByte, opcode => some (opcode % 256)
  | .word, opcode => some (opcode % 65536)

/-- The selectors of the groups; a group may be without one. -/
abbrev Selectors := Fin 16 → Option Selector

/-- The selectors of the console's own instructions. -/
def Selectors.standard : Selectors := fun primary =>
  some <| match primary.val with
    | 0x0 => .word
    | 0x8 => .lowNibble
    | 0xE => .lowByte
    | 0xF => .lowByte
    | _ => .none

/-- The instructions that share a primary field. -/
structure DecodeGroup where
  selector : Selector
  /-- The instructions in the order of their registration, no two with the same key. -/
  entries : List Instruction

namespace DecodeGroup

/-- The instruction registered under a key. -/
def entry? (g : DecodeGroup) (key : Option Int) : Option Instruction :=
  g.entries.find? fun i => i.key == key

/-- The instruction of an opcode: the one with its key, or else the one without a key. -/
def lookup (g : DecodeGroup) (opcode : Opcode) : Option Instruction :=
  (g.entry? (g.selector.extract opcode)).or (g.entry? none)

end DecodeGroup

/-- One group, or none, for each primary field. -/
abbrev DecodeTable := Vector (Option DecodeGroup) 16

namespace DecodeTable

/-- The instruction of an opcode. -/
def lookup (t : DecodeTable) (opcode : Opcode) : Option Instruction :=
  match t[opcode.primary] with
  | some group => group.lookup opcode
  | none => none

end DecodeTable

/-- Why an instruction or a table is refused. -/
inductive TableError where
  /-- A key or an entry in a group that has no selector. -/
  | noSelector (primary : Fin 16)
  /-- A key in a group whose selector reads no field. -/
  | keyNotTaken (primary : Fin 16)
  /-- A place that another instruction already has. -/
  | placeTaken (primary : Fin 16) (key : Option Int) (mnemonic : String)

namespace TableError

/-- A group is named by one capital digit. -/
def groupStyle : HexStyle := ⟨1, true, false⟩

/-- A key is shown in base ten; an instruction without one has the key `None`. -/
def showKey : Option Int → String
  | some key => toString key
  | none => "None"

/-- The complaint; a group without a selector is named by its number alone. -/
def message : TableError → String
  | noSelector primary => toString primary.val
  | keyNotTaken primary =>
    "group " ++ groupStyle.write primary.val ++ " does not take secondary keys"
  | placeTaken primary key mnemonic =>
    "opcode " ++ groupStyle.write primary.val ++ "/" ++ showKey key ++ " already registered as "
      ++ mnemonic

end TableError

/-- A table under construction. -/
structure TableBuilder where
  selectors : Selectors
  /-- The instructions in the order of their registration. -/
  registered : List Instruction

namespace TableBuilder

/-- A builder without instructions. -/
def empty (selectors : Selectors) : TableBuilder := ⟨selectors, []⟩

/-- The registered instructions of one group. -/
def entries (b : TableBuilder) (primary : Fin 16) : List Instruction :=
  b.registered.filter fun i => i.primary == primary

/-- The instruction at a place. -/
def entry? (b : TableBuilder) (primary : Fin 16) (key : Option Int) : Option Instruction :=
  (b.entries primary).find? fun i => i.key == key

/-- What is wrong with an instruction's key, if anything. -/
def keyError? (b : TableBuilder) (i : Instruction) : Option TableError :=
  if i.key.isNone then none
  else match b.selectors i.primary with
    | none => some (.noSelector i.primary)
    | some .none => some (.keyNotTaken i.primary)
    | some _ => none

/-- The builder with one more instruction. -/
def register (b : TableBuilder) (i : Instruction) : Except TableError TableBuilder :=
  match b.keyError? i with
  | some e => .error e
  | none =>
    match b.entry? i.primary i.key with
    | some other => .error (.placeTaken i.primary i.key other.mnemonic)
    | none => .ok { b with registered := b.registered ++ [i] }

/-- Registers instructions in order up to the first that is refused. -/
def registerEach (b : TableBuilder) : List Instruction → TableBuilder × Option TableError
  | [] => (b, none)
  | i :: rest =>
    match b.register i with
    | .error e => (b, some e)
    | .ok b => b.registerEach rest

/-- The group of a primary field, if instructions are registered there. -/
def group? (b : TableBuilder) (primary : Fin 16) : Option DecodeGroup :=
  match b.entries primary with
  | [] => none
  | entries => (b.selectors primary).map fun selector => ⟨selector, entries⟩

/-- The table of the groups that have a selector. -/
def table (b : TableBuilder) : DecodeTable := Vector.ofFn b.group?

/-- Whether a group has instructions but no selector. -/
def lacksSelector (b : TableBuilder) (primary : Fin 16) : Bool :=
  !(b.entries primary).isEmpty && (b.selectors primary).isNone

/-- The finished table; every group with instructions needs a selector. -/
def freeze (b : TableBuilder) : Except TableError DecodeTable :=
  match (List.finRange 16).find? b.lacksSelector with
  | some primary => .error (.noSelector primary)
  | none => .ok b.table

/-! ### What a registration adds -/

theorem entries_append (b : TableBuilder) (i : Instruction) (primary : Fin 16) :
    ({ b with registered := b.registered ++ [i] } : TableBuilder).entries primary
      = b.entries primary ++ if i.primary = primary then [i] else [] := by
  by_cases h : i.primary = primary <;> simp [entries, List.filter_append, h]

theorem register_eq_ok_iff {b b' : TableBuilder} {i : Instruction} :
    b.register i = .ok b' ↔
      b.keyError? i = none ∧ b.entry? i.primary i.key = none
        ∧ b' = { b with registered := b.registered ++ [i] } := by
  unfold register
  split
  · rename_i e he
    simp [he]
  · rename_i he
    split
    · rename_i other ho
      simp [ho]
    · rename_i ho
      simp only [Except.ok.injEq, he, ho, true_and]
      exact eq_comm

end TableBuilder

/-- The table of a list of instructions under the standard selectors. -/
def DecodeTable.build (instructions : List Instruction) : Except TableError DecodeTable :=
  match (TableBuilder.empty Selectors.standard).registerEach instructions with
  | (_, some e) => .error e
  | (b, none) => b.freeze

end Chip8
