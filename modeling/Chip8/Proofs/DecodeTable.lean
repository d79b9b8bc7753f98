/-
What a decode table answers.

A builder goes through many registrations, some of them refused, and tables are fixed in
between.  All that is said of this by the rules of registration alone is a `Registry`, which
knows for each place, a primary field with a key, the one instruction that has it.  The
builder keeps its instructions in a list, and a table keeps them in groups; still both
answer as the registry does (`registry_serveEach`, `lookup_of_freeze`).

A list of instructions is registered one by one, so what holds of one registration is
carried along the list by induction, and along all requests by another.
-/
import Chip8.DecodeTable

namespace Chip8

/-! ### Opcodes as far as a table reads them -/

namespace Opcode

/-- The primary field lies within the last sixteen bits. -/
theorem primary_congr {opcode other : Opcode}
    (h : (other : Int) % 0x10000 = (opcode : Int) % 0x10000) : other.primary = opcode.primary := by
  refine Fin.ext ?_
  show (other / 16 ^ 3 % 16 : Int).toNat = (opcode / 16 ^ 3 % 16 : Int).toNat
  unfold Opcode at *
  omega

end Opcode

/-- So does every field that a selector reads. -/
theorem Selector.extract_congr {opcode other : Opcode}
    (h : (other : Int) % 0x10000 = (opcode : Int) % 0x10000) (s : Selector) :
    s.extract other = s.extract opcode := by
  unfold Opcode at *
  cases s with
  | none => rfl
  | lowNibble =>
      have hnibble : other % 16 = opcode % 16 := by omega
      exact congrArg some hnibble
  | lowByte =>
      have hbyte : other % 256 = opcode % 256 := by omega
      exact congrArg some hbyte
  | word => exact congrArg some h

/-! ### Registries -/

/-- The instruction at each primary field and key, if there is one. -/
abbrev Registry := Fin 16 → Option Int → Option Instruction

namespace Registry

/-- No place is taken. -/
def empty : Registry := fun _ _ => none

/-- Whether an instruction is accepted: its group takes its key, and its place is free. -/
def Takes (selectors : Selectors) (r : Registry) (i : Instruction) : Prop :=
  (i.key = none ∨ selectors i.primary ≠ none ∧ selectors i.primary ≠ some .none) ∧
    r i.primary i.key = none

instance (selectors : Selectors) (r : Registry) (i : Instruction) :
    Decidable (r.Takes selectors i) :=
  inferInstanceAs (Decidable (_ ∧ _))

/-- The registry with one more instruction at its place. -/
def add (r : Registry) (i : Instruction) : Registry := fun primary key =>
  if primary = i.primary ∧ key = i.key then some i else r primary key

/-- The registry with the instructions of a list up to the first that is not accepted. -/
def addEach (selectors : Selectors) (r : Registry) : List Instruction → Registry
  | [] => r
  | i :: rest => if r.Takes selectors i then (r.add i).addEach selectors rest else r

/-- The instruction of an opcode: the one with its key, or else the one without a key. -/
def lookup (selectors : Selectors) (r : Registry) (opcode : Opcode) : Option Instruction :=
  (r opcode.primary ((selectors opcode.primary).bind (·.extract opcode))).or
    (r opcode.primary none)

/-- Opcodes with the same last sixteen bits have the same instruction. -/
theorem lookup_congr {selectors : Selectors} {r : Registry} {opcode other : Opcode}
    (h : (other : Int) % 0x10000 = (opcode : Int) % 0x10000) :
    r.lookup selectors other = r.lookup selectors opcode := by
  have hkey : (fun s : Selector => s.extract other) = fun s => s.extract opcode :=
    funext (Selector.extract_congr h)
  rw [lookup, lookup, Opcode.primary_congr h, hkey]

end Registry

namespace TableBuilder

variable {b b' : TableBuilder} {i : Instruction}

/-- The registry that a builder's list amounts to. -/
def registry (b : TableBuilder) : Registry := fun primary key => b.entry? primary key

/-! ### One registration -/

theorem keyError?_eq_none_iff :
    b.keyError? i = none ↔
      i.key = none ∨ b.selectors i.primary ≠ none ∧ b.selectors i.primary ≠ some .none := by
  unfold keyError?
  cases hkey : i.key with
  | none => simp
  | some key =>
      rcases hs : b.selectors i.primary with _ | s
      · simp
      · cases s <;> simp

/-- The builder accepts what the rules accept. -/
theorem register_isOk_iff :
    (∃ b', b.register i = .ok b') ↔ b.registry.Takes b.selectors i := by
  rw [Registry.Takes, ← keyError?_eq_none_iff]
  constructor
  · rintro ⟨b', h⟩
    obtain ⟨hkey, hplace, -⟩ := register_eq_ok_iff.mp h
    exact ⟨hkey, hplace⟩
  · rintro ⟨hkey, hplace⟩
    exact ⟨_, register_eq_ok_iff.mpr ⟨hkey, hplace, rfl⟩⟩

theorem register_error_of_not_takes (h : ¬ b.registry.Takes b.selectors i) :
    ∃ e, b.register i = .error e := by
  cases hr : b.register i with
  | error e => exact ⟨e, rfl⟩
  | ok b' => exact absurd (register_isOk_iff.mp ⟨b', hr⟩) h

/-- An accepted instruction has its place and leaves every other place alone. -/
theorem registry_of_register (h : b.register i = .ok b') : b'.registry = b.registry.add i := by
  obtain ⟨-, hplace, rfl⟩ := register_eq_ok_iff.mp h
  funext primary key
  show List.find? _ (entries _ primary) = if _ then some i else List.find? _ (b.entries primary)
  rw [entries_append, List.find?_append]
  by_cases hp : i.primary = primary
  · subst hp
    by_cases hk : i.key = key
    · subst hk
      have hfree : (b.entries i.primary).find? (fun j => j.key == i.key) = none := hplace
      simp [hfree]
    · have hk' : ¬ key = i.key := fun he => hk he.symm
      simp [hk, hk']
  · have hp' : ¬ primary = i.primary := fun he => hp he.symm
    simp [hp, hp']

theorem selectors_of_register (h : b.register i = .ok b') : b'.selectors = b.selectors := by
  obtain ⟨-, -, rfl⟩ := register_eq_ok_iff.mp h
  rfl

/-! ### Registrations in a row -/

theorem registerEach_cons_of_ok (h : b.register i = .ok b') (rest : List Instruction) :
    b.registerEach (i :: rest) = b'.registerEach rest := by
  rw [registerEach, h]

theorem registerEach_cons_of_error {e : TableError} (h : b.register i = .error e)
    (rest : List Instruction) : b.registerEach (i :: rest) = (b, some e) := by
  rw [registerEach, h]

theorem registerEach_spec (b : TableBuilder) (is : List Instruction) :
    (b.registerEach is).1.selectors = b.selectors ∧
      (b.registerEach is).1.registry = b.registry.addEach b.selectors is := by
  induction is generalizing b with
  | nil => exact ⟨rfl, rfl⟩
  | cons i rest ih =>
      by_cases ht : b.registry.Takes b.selectors i
      · obtain ⟨b', h⟩ := register_isOk_iff.mpr ht
        obtain ⟨hselectors, hregistry⟩ := ih b'
        rw [selectors_of_register h] at hselectors hregistry
        rw [registerEach_cons_of_ok h, Registry.addEach, if_pos ht, ← registry_of_register h]
        exact ⟨hselectors, hregistry⟩
      · obtain ⟨e, h⟩ := register_error_of_not_takes ht
        rw [registerEach_cons_of_error h, Registry.addEach, if_neg ht]
        exact ⟨rfl, rfl⟩

/-- Registrations that are all accepted add just what was to be registered. -/
theorem registered_of_registerEach {is : List Instruction} (h : (b.registerEach is).2 = none) :
    (b.registerEach is).1.registered = b.registered ++ is := by
  induction is generalizing b with
  | nil => exact (List.append_nil b.registered).symm
  | cons i rest ih =>
      cases hr : b.register i with
      | error e =>
          rw [registerEach_cons_of_error hr] at h
          cases h
      | ok b' =>
          rw [registerEach_cons_of_ok hr] at h ⊢
          obtain ⟨-, -, rfl⟩ := register_eq_ok_iff.mp hr
          rw [ih h, List.append_assoc]
          rfl

/-- A list that is refused is refused at one of its instructions, and those before it stay. -/
theorem registerEach_error {is : List Instruction} {e : TableError}
    (h : (b.registerEach is).2 = some e) :
    ∃ done i rest, is = done ++ i :: rest ∧ (b.registerEach done).2 = none ∧
      (b.registerEach is).1 = (b.registerEach done).1 ∧
      (b.registerEach done).1.register i = .error e := by
  induction is generalizing b with
  | nil => cases h
  | cons i rest ih =>
      cases hr : b.register i with
      | error e' =>
          rw [registerEach_cons_of_error hr] at h ⊢
          cases h
          exact ⟨[], i, rest, rfl, rfl, rfl, hr⟩
      | ok b' =>
          rw [registerEach_cons_of_ok hr] at h ⊢
          obtain ⟨done, j, others, hsplit, hdone, hleft, hrefused⟩ := ih h
          refine ⟨i :: done, j, others, by rw [hsplit, List.cons_append], ?_⟩
          rw [registerEach_cons_of_ok hr]
          exact ⟨hdone, hleft, hrefused⟩

/-! ### What is registered -/

/-- Whether every registered instruction is the one at its place. -/
def Sole (b : TableBuilder) : Prop := ∀ i ∈ b.registered, b.registry i.primary i.key = some i

theorem sole_empty (selectors : Selectors) : (empty selectors).Sole := by
  intro i hi
  exact absurd hi List.not_mem_nil

theorem Sole.register (hb : b.Sole) (h : b.register i = .ok b') : b'.Sole := by
  have hregistry := registry_of_register h
  obtain ⟨-, hfree, rfl⟩ := register_eq_ok_iff.mp h
  change b.registry i.primary i.key = none at hfree
  intro j hj
  rw [hregistry, Registry.add]
  rcases List.mem_append.mp hj with hj | hj
  · by_cases hplace : j.primary = i.primary ∧ j.key = i.key
    · -- The place of the new instruction was free, so no other one has it.
      have htaken := hb j hj
      rw [hplace.1, hplace.2, hfree] at htaken
      cases htaken
    · rw [if_neg hplace]
      exact hb j hj
  · obtain rfl := List.mem_singleton.mp hj
    rw [if_pos ⟨rfl, rfl⟩]

theorem Sole.registerEach (hb : b.Sole) (is : List Instruction) : (b.registerEach is).1.Sole := by
  induction is generalizing b with
  | nil => exact hb
  | cons i rest ih =>
      cases hr : b.register i with
      | error e =>
          rw [registerEach_cons_of_error hr]
          exact hb
      | ok b' =>
          rw [registerEach_cons_of_ok hr]
          exact ih (hb.register hr)

/-- What is found at a place is what was registered there. -/
theorem Sole.registry_eq_some_iff (hb : b.Sole) {primary : Fin 16} {key : Option Int} :
    b.registry primary key = some i ↔ i ∈ b.registered ∧ i.primary = primary ∧ i.key = key := by
  constructor
  · intro h
    have hkey := List.find?_some h
    have hmem := List.mem_filter.mp (List.mem_of_find?_eq_some h)
    exact ⟨hmem.1, by simpa using hmem.2, by simpa using hkey⟩
  · rintro ⟨hmem, rfl, rfl⟩
    exact hb i hmem

/-! ### Fixing a table -/

theorem table_of_freeze {t : DecodeTable} (h : b.freeze = .ok t) :
    t = b.table ∧ ∀ primary, b.lacksSelector primary = false := by
  unfold freeze at h
  cases hfind : (List.finRange 16).find? b.lacksSelector with
  | some primary =>
      rw [hfind] at h
      cases h
  | none =>
      rw [hfind] at h
      cases h
      refine ⟨rfl, fun primary => ?_⟩
      have hnone := List.find?_eq_none.mp hfind primary (List.mem_finRange primary)
      simpa using hnone

/-- **A table answers as the registry of its builder does**, at the time when it is fixed. -/
theorem lookup_of_freeze {t : DecodeTable} (h : b.freeze = .ok t) (opcode : Opcode) :
    t.lookup opcode = b.registry.lookup b.selectors opcode := by
  obtain ⟨rfl, hselector⟩ := table_of_freeze h
  have hgroup : b.table[opcode.primary] = b.group? opcode.primary := by
    rw [table, Fin.getElem_fin, Vector.getElem_ofFn]
  have hlacks := hselector opcode.primary
  rw [DecodeTable.lookup, hgroup, Registry.lookup, group?]
  unfold registry TableBuilder.entry?
  unfold lacksSelector at hlacks
  cases hentries : b.entries opcode.primary with
  | nil => rfl
  | cons first others =>
      cases hs : b.selectors opcode.primary with
      | none =>
          rw [hentries, hs] at hlacks
          cases hlacks
      | some s => rfl

/-! ### Many requests -/

/-- What can be asked of a builder. -/
inductive Request where
  | register (i : Instruction)
  /-- Several registrations, up to the first that is refused. -/
  | registerAll (is : List Instruction)
  | freeze

end TableBuilder

/-- The registry after a request. -/
def Registry.after (selectors : Selectors) (r : Registry) : TableBuilder.Request → Registry
  | .register i => r.addEach selectors [i]
  | .registerAll is => r.addEach selectors is
  | .freeze => r

/-- A builder together with the tables that were fixed, the first one first. -/
structure Workbench where
  builder : TableBuilder
  tables : List DecodeTable

namespace Workbench

open TableBuilder (Request)

/-- Nothing is registered, and no table fixed. -/
def empty (selectors : Selectors) : Workbench := ⟨TableBuilder.empty selectors, []⟩

/-- The workbench after a request; one that is refused is served as far as it was accepted. -/
def serve (w : Workbench) : Request → Workbench
  | .register i =>
    match w.builder.register i with
    | .ok builder => { w with builder }
    | .error _ => w
  | .registerAll is => { w with builder := (w.builder.registerEach is).1 }
  | .freeze =>
    match w.builder.freeze with
    | .ok t => { w with tables := w.tables ++ [t] }
    | .error _ => w

/-- The workbench after several requests. -/
def serveEach (w : Workbench) (requests : List Request) : Workbench := requests.foldl serve w

variable {w : Workbench} {selectors : Selectors}

theorem serve_register_error {i : Instruction} {e : TableError}
    (h : w.builder.register i = .error e) : w.serve (.register i) = w := by
  rw [serve, h]

theorem serve_freeze {t : DecodeTable} (h : w.builder.freeze = .ok t) :
    w.serve .freeze = { w with tables := w.tables ++ [t] } := by
  rw [serve, h]

/-- A single registration is one of a list of one. -/
theorem builder_serve_register (w : Workbench) (i : Instruction) :
    (w.serve (.register i)).builder = (w.builder.registerEach [i]).1 := by
  rw [serve]
  cases h : w.builder.register i with
  | ok b => rw [TableBuilder.registerEach_cons_of_ok h, TableBuilder.registerEach]
  | error e => rw [TableBuilder.registerEach_cons_of_error h]

theorem builder_serve_freeze (w : Workbench) : (w.serve .freeze).builder = w.builder := by
  rw [serve]
  cases w.builder.freeze with
  | ok t => rfl
  | error e => rfl

theorem builder_serve (hs : w.builder.selectors = selectors) (request : Request) :
    (w.serve request).builder.selectors = selectors ∧
      (w.serve request).builder.registry = w.builder.registry.after selectors request := by
  subst hs
  cases request with
  | register i =>
    rw [builder_serve_register]
    exact w.builder.registerEach_spec [i]
  | registerAll is => exact w.builder.registerEach_spec is
  | freeze =>
    rw [builder_serve_freeze]
    exact ⟨rfl, rfl⟩

theorem builder_serveEach (hs : w.builder.selectors = selectors) (requests : List Request) :
    (w.serveEach requests).builder.selectors = selectors ∧
      (w.serveEach requests).builder.registry
        = requests.foldl (Registry.after selectors) w.builder.registry := by
  induction requests generalizing w with
  | nil => exact ⟨hs, rfl⟩
  | cons request rest ih =>
      obtain ⟨hselectors, hregistry⟩ := builder_serve hs request
      rw [serveEach, List.foldl_cons, List.foldl_cons, ← hregistry]
      exact ih hselectors

/-- The builder holds what the rules of registration say. -/
theorem registry_serveEach (selectors : Selectors) (requests : List Request) :
    ((empty selectors).serveEach requests).builder.selectors = selectors ∧
      ((empty selectors).serveEach requests).builder.registry
        = requests.foldl (Registry.after selectors) Registry.empty :=
  builder_serveEach rfl requests

theorem sole_serve (hw : w.builder.Sole) (request : Request) : (w.serve request).builder.Sole := by
  cases request with
  | register i =>
    rw [builder_serve_register]
    exact hw.registerEach [i]
  | registerAll is => exact hw.registerEach is
  | freeze =>
    rw [builder_serve_freeze]
    exact hw

theorem sole_serveEach (hw : w.builder.Sole) (requests : List Request) :
    (w.serveEach requests).builder.Sole := by
  induction requests generalizing w with
  | nil => exact hw
  | cons request rest ih => exact ih (sole_serve hw request)

/-- Tables are only ever added. -/
theorem tables_prefix (w : Workbench) (requests : List Request) :
    w.tables <+: (w.serveEach requests).tables := by
  induction requests generalizing w with
  | nil => exact List.prefix_rfl
  | cons request rest ih =>
      refine List.IsPrefix.trans ?_ (ih (w.serve request))
      cases request with
      | register i =>
        rw [serve]
        cases w.builder.register i with
        | ok b => exact List.prefix_rfl
        | error e => exact List.prefix_rfl
      | registerAll is => exact List.prefix_rfl
      | freeze =>
        rw [serve]
        cases w.builder.freeze with
        | ok t => exact List.prefix_append _ _
        | error e => exact List.prefix_rfl

/-- A table stays where it was put, whatever is asked for afterwards. -/
theorem table_serveEach {t : DecodeTable} (h : w.builder.freeze = .ok t)
    (later : List Request) :
    (w.serveEach (.freeze :: later)).tables[w.tables.length]? = some t := by
  obtain ⟨more, hmore⟩ := tables_prefix (w.serve .freeze) later
  rw [serve_freeze h] at hmore
  rw [serveEach, List.foldl_cons, serve_freeze h]
  show (Workbench.serveEach _ later).tables[_]? = _
  rw [← hmore, List.append_assoc, List.getElem?_append_right (Nat.le_refl _), Nat.sub_self]
  rfl

/--
**A table answers exactly by what was registered before it was fixed.**  After any requests,
whichever of them were refused, the registered instructions are those that the rules of
registration accept, one at each place; a table that is fixed then finds the one with the
key of an opcode, or else the one without a key, and nothing that follows changes it.  A
refused instruction leaves no trace, and a list is registered up to the one that is refused.
-/
theorem tables_answer (selectors : Selectors) (requests : List Request) :
    let w := (empty selectors).serveEach requests
    let r := requests.foldl (Registry.after selectors) Registry.empty
    (∀ t, w.builder.freeze = .ok t →
      (∀ opcode, t.lookup opcode = Registry.lookup selectors r opcode) ∧
      (∀ opcode other : Opcode, (other : Int) % 0x10000 = (opcode : Int) % 0x10000 →
        t.lookup other = t.lookup opcode) ∧
      ∀ later, (w.serveEach (.freeze :: later)).tables[w.tables.length]? = some t) ∧
    (∀ primary key i, r primary key = some i ↔
      i ∈ w.builder.registered ∧ i.primary = primary ∧ i.key = key) ∧
    (∀ i, (∃ b, w.builder.register i = .ok b) ↔ Registry.Takes selectors r i) ∧
    (∀ i e, w.builder.register i = .error e → w.serve (.register i) = w) ∧
    ∀ is e, (w.builder.registerEach is).2 = some e →
      ∃ done i rest, is = done ++ i :: rest ∧
        w.serve (.registerAll is) = w.serve (.registerAll done) ∧
        (w.serve (.registerAll done)).builder.registered = w.builder.registered ++ done ∧
        (w.serve (.registerAll done)).builder.register i = .error e := by
  intro w r
  obtain ⟨hselectors, hregistry⟩ := registry_serveEach selectors requests
  have hsole : w.builder.Sole := sole_serveEach (TableBuilder.sole_empty selectors) requests
  refine ⟨?_, ?_, ?_, ?_, ?_⟩
  · intro t ht
    have hlookup : ∀ opcode, t.lookup opcode = Registry.lookup selectors r opcode := by
      intro opcode
      rw [TableBuilder.lookup_of_freeze ht, hselectors, hregistry]
    refine ⟨hlookup, ?_, table_serveEach ht⟩
    intro opcode other hsame
    rw [hlookup, hlookup, Registry.lookup_congr hsame]
  · intro primary key i
    rw [← hsole.registry_eq_some_iff, hregistry]
  · intro i
    rw [TableBuilder.register_isOk_iff, hselectors, hregistry]
  · intro i e h
    exact serve_register_error h
  · intro is e h
    obtain ⟨done, i, rest, hsplit, hdone, hleft, hrefused⟩ := TableBuilder.registerEach_error h
    refine ⟨done, i, rest, hsplit, ?_, TableBuilder.registered_of_registerEach hdone, hrefused⟩
    rw [serve, serve, hleft]

/-- An instruction of the group told apart by its lowest four bits, with a name and a key. -/
def nibbleInstruction (mnemonic : String) (key : Option Int) : Instruction :=
  ⟨0x8, mnemonic, .operation .load, key⟩

/-- A list of which the second instruction is refused, because its place is taken. -/
def partlyRefused : List Instruction :=
  [nibbleInstruction "REST" none, nibbleInstruction "TWIN" (some 1),
    nibbleInstruction "LATE" (some 2)]

/-- Requests that end with this list. -/
def refusedRequests : List Request :=
  [.register (nibbleInstruction "ONE" (some 1)), .freeze, .registerAll partlyRefused]

/--
The instruction behind the refused one is not registered, so the table takes the one without
a key for it; and it still does after that instruction was registered.
-/
theorem tables_answer_refusedRequests :
    ∃ t, ((empty .standard).serveEach refusedRequests).builder.freeze = .ok t ∧
      t.lookup (-0x7FFF) = some (nibbleInstruction "ONE" (some 1)) ∧
      t.lookup (-0x7FFE) = some (nibbleInstruction "REST" none) ∧
      ((empty .standard).serveEach (refusedRequests ++
        [.freeze, .register (nibbleInstruction "LATE" (some 2))])).tables[1]? = some t := by
  obtain ⟨htables, -⟩ := tables_answer .standard refusedRequests
  have hfreeze : ((empty .standard).serveEach refusedRequests).builder.freeze
      = .ok ((empty .standard).serveEach refusedRequests).builder.table := rfl
  obtain ⟨hlookup, -, hlater⟩ := htables _ hfreeze
  refine ⟨_, hfreeze, ?_, ?_, ?_⟩
  · rw [hlookup]
    decide
  · rw [hlookup]
    decide
  · exact hlater [.register (nibbleInstruction "LATE" (some 2))]

end Workbench

end Chip8
