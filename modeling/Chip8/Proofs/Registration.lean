/-
The order of registrations.

A list of instructions is registered from its front, and each instruction is held against those
before it.  Still the order decides nothing: an instruction is refused for its own key or for
another one at its place, and both can be said of the list as a whole (`Compatible`).
`registerEach_eq_none_iff` says so of any builder, by one induction along the list.

Behind an accepted list the builder has just its instructions, each alone at its place, so what
is found at a place depends on which instructions there are and not on their order.
-/
import Chip8.Proofs.DecodeTable

namespace Chip8

/-! ### What instructions can be registered together -/

namespace Instruction

/-- Whether two instructions have different places. -/
def Apart (i j : Instruction) : Prop := ¬ (i.primary = j.primary ∧ i.key = j.key)

theorem Apart.symm {i j : Instruction} (h : i.Apart j) : j.Apart i :=
  fun hsame => h ⟨hsame.1.symm, hsame.2.symm⟩

/-- Whether an instruction has a key although its group, one of 1 to 7 or 9 to D, takes none. -/
def Misplaced (i : Instruction) : Prop :=
  i.key ≠ none ∧
    (1 ≤ i.primary.val ∧ i.primary.val ≤ 7 ∨ 9 ≤ i.primary.val ∧ i.primary.val ≤ 0xD)

instance (i j : Instruction) : Decidable (i.Apart j) := inferInstanceAs (Decidable (¬ (_ ∧ _)))

instance (i : Instruction) : Decidable i.Misplaced := inferInstanceAs (Decidable (_ ∧ _))

/-- Whether instructions have keys only where keys are taken, and no place twice. -/
structure Compatible (is : List Instruction) : Prop where
  placed : ∀ i ∈ is, ¬ i.Misplaced
  apart : is.Pairwise Apart

/-- This does not depend on their order. -/
theorem Compatible.perm {is others : List Instruction} (hperm : is.Perm others) :
    Compatible others ↔ Compatible is := by
  constructor
  · rintro ⟨hplaced, hapart⟩
    exact ⟨fun i hi => hplaced i (hperm.mem_iff.mp hi),
      (hperm.pairwise_iff Apart.symm).mpr hapart⟩
  · rintro ⟨hplaced, hapart⟩
    exact ⟨fun i hi => hplaced i (hperm.mem_iff.mpr hi),
      (hperm.pairwise_iff Apart.symm).mp hapart⟩

end Instruction

open Instruction (Apart Misplaced Compatible)

/-- The standard selectors read no field just in the groups that take no keys. -/
theorem Selectors.standard_spec (primary : Fin 16) : standard primary ≠ none ∧
    (standard primary = some .none
      ↔ 1 ≤ primary.val ∧ primary.val ≤ 7 ∨ 9 ≤ primary.val ∧ primary.val ≤ 0xD) := by
  revert primary
  decide

namespace TableBuilder

variable {b c : TableBuilder} {i : Instruction} {is : List Instruction}

/-! ### Registering a list -/

theorem entry?_eq_none_iff : b.entry? i.primary i.key = none ↔ ∀ j ∈ b.registered, j.Apart i := by
  simp only [entries, entry?, List.find?_eq_none, List.mem_filter, beq_iff_eq, and_imp, Apart,
    not_and]

/-- **A list is accepted if each of its instructions would be alone**, and none is at the place of
another or of one that was registered before. -/
theorem registerEach_eq_none_iff (b : TableBuilder) (is : List Instruction) :
    (b.registerEach is).2 = none ↔ (∀ i ∈ is, b.keyError? i = none) ∧
      (∀ i ∈ is, ∀ j ∈ b.registered, j.Apart i) ∧ is.Pairwise Apart := by
  induction is generalizing b with
  | nil => simp [registerEach]
  | cons i rest ih =>
      rw [List.forall_mem_cons, List.forall_mem_cons, List.pairwise_cons]
      cases hr : b.register i with
      | error e =>
          rw [registerEach_cons_of_error hr]
          constructor
          · intro h
            cases h
          · rintro ⟨⟨hkey, -⟩, ⟨hfree, -⟩, -⟩
            have hok := register_eq_ok_iff.mpr ⟨hkey, entry?_eq_none_iff.mpr hfree, rfl⟩
            rw [hr] at hok
            cases hok
      | ok b' =>
          obtain ⟨hkey, hplace, rfl⟩ := register_eq_ok_iff.mp hr
          have hfree := entry?_eq_none_iff.mp hplace
          rw [registerEach_cons_of_ok hr, ih]
          constructor
          · rintro ⟨hkeys, hbehind, hpairs⟩
            exact ⟨⟨hkey, hkeys⟩,
              ⟨hfree, fun k hk j hj => hbehind k hk j (List.mem_append_left _ hj)⟩,
              fun k hk => hbehind k hk i (List.mem_append_right _ (List.mem_singleton_self i)),
              hpairs⟩
          · rintro ⟨⟨-, hkeys⟩, ⟨-, hbefore⟩, hfirst, hpairs⟩
            refine ⟨hkeys, fun k hk j hj => ?_, hpairs⟩
            rcases List.mem_append.mp hj with hj | hj
            · exact hbefore k hk j hj
            · rw [List.mem_singleton.mp hj]
              exact hfirst k hk

/-- Builders with the same instructions find the same ones. -/
theorem Sole.registry_congr (hb : b.Sole) (hc : c.Sole)
    (hsame : ∀ i, i ∈ b.registered ↔ i ∈ c.registered) : b.registry = c.registry := by
  funext primary key
  refine Option.ext fun i => ?_
  rw [hb.registry_eq_some_iff, hc.registry_eq_some_iff, hsame]

/-! ### The standard groups -/

theorem misplaced_iff : i.Misplaced ↔ i.key ≠ none ∧ Selectors.standard i.primary = some .none :=
  and_congr_right fun _ => (Selectors.standard_spec i.primary).2.symm

theorem keyError?_standard (hs : b.selectors = .standard) :
    b.keyError? i = if i.Misplaced then some (.keyNotTaken i.primary) else none := by
  have hsome := (Selectors.standard_spec i.primary).1
  simp only [keyError?, hs, misplaced_iff]
  cases i.key with
  | none => simp
  | some key =>
      rcases hsel : Selectors.standard i.primary with _ | s
      · exact absurd hsel hsome
      · cases s <;> simp

/-- An instruction is refused for its key, or for another one that has its place. -/
theorem register_standard_error (hs : b.selectors = .standard) {e : TableError}
    (h : b.register i = .error e) :
    i.Misplaced ∧ e = .keyNotTaken i.primary ∨
      ∃ other ∈ b.registered, ¬ other.Apart i ∧
        e = .placeTaken i.primary i.key other.mnemonic := by
  rw [register, keyError?_standard hs] at h
  by_cases hm : i.Misplaced
  · rw [if_pos hm] at h
    cases h
    exact .inl ⟨hm, rfl⟩
  · rw [if_neg hm] at h
    cases hplace : b.entry? i.primary i.key with
    | none =>
        rw [hplace] at h
        cases h
    | some other =>
        rw [hplace] at h
        cases h
        have hmem := List.mem_filter.mp (List.mem_of_find?_eq_some hplace)
        have hkey := List.find?_some hplace
        refine .inr ⟨other, hmem.1, fun hapart => ?_, rfl⟩
        exact hapart ⟨by simpa using hmem.2, by simpa using hkey⟩

theorem registerEach_standard_iff (is : List Instruction) :
    ((empty .standard).registerEach is).2 = none ↔ Compatible is := by
  rw [registerEach_eq_none_iff]
  constructor
  · rintro ⟨hkeys, -, hpairs⟩
    refine ⟨fun i hi hm => ?_, hpairs⟩
    have hkey := hkeys i hi
    rw [keyError?_standard rfl, if_pos hm] at hkey
    cases hkey
  · rintro ⟨hplaced, hpairs⟩
    refine ⟨fun i hi => ?_, fun i _ j hj => absurd hj List.not_mem_nil, hpairs⟩
    rw [keyError?_standard rfl, if_neg (hplaced i hi)]

/-- Every standard group has a selector. -/
theorem freeze_standard (hs : b.selectors = .standard) : b.freeze = .ok b.table := by
  have hnone : (List.finRange 16).find? b.lacksSelector = none := by
    refine List.find?_eq_none.mpr fun primary _ => ?_
    have hsome := (Selectors.standard_spec primary).1
    rw [lacksSelector, hs, Option.isNone_eq_false_iff.mpr (Option.isSome_iff_ne_none.mpr hsome)]
    simp
  rw [freeze, hnone]

end TableBuilder

namespace DecodeTable

open TableBuilder (empty)

variable {is others : List Instruction} {t u : DecodeTable}

/-! ### Tables of whole lists -/

/-- The builder behind a list that is registered under the standard selectors. -/
def builderOf (is : List Instruction) : TableBuilder := ((empty .standard).registerEach is).1

theorem selectors_builderOf (is : List Instruction) :
    (builderOf is).selectors = .standard :=
  (TableBuilder.registerEach_spec _ is).1

theorem sole_builderOf (is : List Instruction) : (builderOf is).Sole :=
  (TableBuilder.sole_empty _).registerEach is

theorem registered_builderOf (h : Compatible is) : (builderOf is).registered = is :=
  TableBuilder.registered_of_registerEach ((TableBuilder.registerEach_standard_iff is).mpr h)

theorem build_of_compatible (h : Compatible is) : build is = .ok (builderOf is).table := by
  rw [build, ← TableBuilder.freeze_standard (selectors_builderOf is), builderOf]
  rcases hrun : (empty .standard).registerEach is with ⟨b, _ | e⟩
  · rfl
  · have hnone := (TableBuilder.registerEach_standard_iff is).mpr h
    rw [hrun] at hnone
    cases hnone

theorem build_of_error {e : TableError} (h : ((empty .standard).registerEach is).2 = some e) :
    build is = .error e := by
  rw [build]
  rcases hrun : (empty .standard).registerEach is with ⟨b, _ | e'⟩
  · rw [hrun] at h
    cases h
  · rw [hrun] at h
    cases h
    rfl

/-- A list that is refused is refused at the first instruction that cannot join those before it. -/
theorem build_of_not_compatible (h : ¬ Compatible is) :
    ∃ done i rest, is = done ++ i :: rest ∧ Compatible done ∧
      (i.Misplaced ∧ build is = .error (.keyNotTaken i.primary) ∨
        ∃ other ∈ done, ¬ other.Apart i ∧
          build is = .error (.placeTaken i.primary i.key other.mnemonic)) := by
  rw [← TableBuilder.registerEach_standard_iff] at h
  obtain ⟨e, he⟩ := Option.ne_none_iff_exists'.mp h
  obtain ⟨done, i, rest, hsplit, hdone, -, hrefused⟩ := TableBuilder.registerEach_error he
  have hcompatible := (TableBuilder.registerEach_standard_iff done).mp hdone
  refine ⟨done, i, rest, hsplit, hcompatible, ?_⟩
  rw [build_of_error he]
  rcases TableBuilder.register_standard_error (selectors_builderOf done) hrefused with
    ⟨hm, rfl⟩ | ⟨other, hother, hplace, rfl⟩
  · exact .inl ⟨hm, rfl⟩
  · have hregistered : (builderOf done).registered = done := registered_builderOf hcompatible
    exact .inr ⟨other, hregistered ▸ hother, hplace, rfl⟩

theorem build_eq_ok_iff : build is = .ok t ↔ Compatible is ∧ t = (builderOf is).table := by
  constructor
  · intro h
    by_cases hc : Compatible is
    · rw [build_of_compatible hc] at h
      cases h
      exact ⟨hc, rfl⟩
    · obtain ⟨done, i, rest, -, -, ⟨-, he⟩ | ⟨other, -, -, he⟩⟩ := build_of_not_compatible hc
      · rw [he] at h
        cases h
      · rw [he] at h
        cases h
  · rintro ⟨h, rfl⟩
    exact build_of_compatible h

theorem lookup_of_build (h : build is = .ok t) (opcode : Opcode) :
    t.lookup opcode = (builderOf is).registry.lookup .standard opcode := by
  obtain ⟨-, rfl⟩ := build_eq_ok_iff.mp h
  rw [TableBuilder.lookup_of_freeze (TableBuilder.freeze_standard (selectors_builderOf is)),
    selectors_builderOf]

/-- The builders of one list in two orders find the same instructions. -/
theorem registry_builderOf_perm (hperm : is.Perm others) (h : Compatible is) :
    (builderOf others).registry = (builderOf is).registry := by
  refine (sole_builderOf others).registry_congr (sole_builderOf is) fun i => ?_
  rw [registered_builderOf h, registered_builderOf ((Compatible.perm hperm).mpr h), hperm.mem_iff]

/--
**What a table answers does not depend on the order of its list.**  A list makes a table exactly
if no instruction has a key in a group that takes none and no two have one place; otherwise the
first instruction that cannot join those before it is refused, with its group or with the place
and the name of the one that has it.  So a list in another order makes a table too if it does in
one, and every opcode is then the same instruction in both.
-/
theorem build_in_any_order (is : List Instruction) :
    ((∃ t, build is = .ok t) ↔ Compatible is) ∧
    (¬ Compatible is → ∃ done i rest, is = done ++ i :: rest ∧ Compatible done ∧
      (i.Misplaced ∧ build is = .error (.keyNotTaken i.primary) ∨
        ∃ other ∈ done, ¬ other.Apart i ∧
          build is = .error (.placeTaken i.primary i.key other.mnemonic))) ∧
    ∀ others, is.Perm others →
      ((∃ u, build others = .ok u) ↔ ∃ t, build is = .ok t) ∧
      ∀ t u, build is = .ok t → build others = .ok u →
        ∀ opcode, u.lookup opcode = t.lookup opcode := by
  have hbuilt : ∀ l, (∃ t, build l = .ok t) ↔ Compatible l := by
    intro l
    simp only [build_eq_ok_iff, exists_and_left, exists_eq, and_true]
  refine ⟨hbuilt is, build_of_not_compatible, ?_⟩
  intro others hperm
  refine ⟨?_, ?_⟩
  · rw [hbuilt, hbuilt, Compatible.perm hperm]
  · intro t u ht hu opcode
    rw [lookup_of_build ht, lookup_of_build hu,
      registry_builderOf_perm hperm (build_eq_ok_iff.mp ht).1]

/-- An instruction of the group that is told apart by the last byte. -/
def byteInstruction (mnemonic : String) (key : Option Int) : Instruction :=
  ⟨0xE, mnemonic, .operation .skipIfKey, key⟩

/--
An instruction without a key takes what is left of its group wherever it stands in the list, and
one that has a key of its own is found beside it; with two at one place the list is refused in
both orders, though for different ones.
-/
theorem build_in_any_order_catchAll :
    let mixed := [byteInstruction "REST" none, byteInstruction "ONE" (some 1)]
    let twins := [byteInstruction "ONE" (some 1), byteInstruction "TWIN" (some 1)]
    (∃ t u, build mixed = .ok t ∧ build mixed.reverse = .ok u ∧
      (∀ opcode, u.lookup opcode = t.lookup opcode) ∧
      (u.lookup (-0x1FFF)).map (·.mnemonic) = some "ONE" ∧
      (u.lookup 0xE000).map (·.mnemonic) = some "REST") ∧
    build twins = .error (.placeTaken 0xE (some 1) "ONE") ∧
    ¬ ∃ t, build twins.reverse = .ok t := by
  intro mixed twins
  obtain ⟨hbuilt, -, hperm⟩ := build_in_any_order mixed
  obtain ⟨hsame, hlookup⟩ := hperm mixed.reverse (List.reverse_perm mixed).symm
  obtain ⟨htwins, -, hpermTwins⟩ := build_in_any_order twins
  obtain ⟨hsameTwins, -⟩ := hpermTwins twins.reverse (List.reverse_perm twins).symm
  have hmixed : ∃ t, build mixed = .ok t := hbuilt.mpr ⟨by decide, by decide⟩
  obtain ⟨t, ht⟩ := hmixed
  obtain ⟨u, hu⟩ := hsame.mpr ⟨t, ht⟩
  refine ⟨⟨t, u, ht, hu, hlookup t u ht hu, ?_, ?_⟩, rfl, ?_⟩
  · rw [lookup_of_build hu]
    decide
  · rw [lookup_of_build hu]
    decide
  · rw [hsameTwins, htwins]
    intro hcompatible
    exact absurd hcompatible.apart (by decide)

end DecodeTable

end Chip8
