/-
Where a step goes.

The fetch moves the program counter behind an instruction, and most operations leave it there.  A
jump, a call and a return put it somewhere else, a wait for a key moves it back, and a skip moves
it on once more.  All of this happens to one field of the core; `Follows` says of each operation
where it ends, in plain numbers: within the bounds of what can be reached nothing is cut to
sixteen bits.

The skips come in pairs that ask for the same thing and want opposite answers.  Of such a pair
one skips where the other goes straight on.
-/
import Chip8.Proofs.FarJumps

namespace Chip8.Processor

variable {p q : Processor} {op op' : Operation} {c c' : Core} {condition : Prop}

/-- Whether the key that the register of the next opcode names is held. -/
def NamesHeldKey (p : Processor) : Prop :=
  ∃ key : Fin 16, key.val = (p.core.reg p.opcode.x).toNat ∧ p.keypad.holds key = true

/-- Whether a core has skipped an instruction on a condition and gone straight on without it. -/
structure Branches (pc : Int) (condition : Prop) (c : Core) : Prop where
  skips : c.pc = pc + 4 ↔ condition
  passes : c.pc = pc + 2 ↔ ¬ condition

/-- Where an operation leaves the program counter. -/
def Follows (p : Processor) (op : Operation) (c : Core) : Prop :=
  match op with
  | .jump | .call => c.pc = p.opcode.nnn
  -- The newest return address is taken off the stack.
  | .returnFromCall => p.core.stack = c.pc :: c.stack
  | .jumpOffset =>
    c.pc = if p.truncateJump then ((p.offsetTarget % 0x100 : Nat) : Int) else p.offsetTarget
  | .waitKey =>
    ((∀ key, p.keypad.holds key = false) → c.pc = p.core.pc) ∧
      ((∃ key, p.keypad.holds key = true) → c.pc = p.core.pc + 2)
  | .skipIfEqualImmediate => Branches p.core.pc (p.core.reg p.opcode.x = p.opcode.nn) c
  | .skipUnlessEqualImmediate => Branches p.core.pc (p.core.reg p.opcode.x ≠ p.opcode.nn) c
  | .skipIfEqual => Branches p.core.pc (p.core.reg p.opcode.x = p.core.reg p.opcode.y) c
  | .skipUnlessEqual => Branches p.core.pc (p.core.reg p.opcode.x ≠ p.core.reg p.opcode.y) c
  | .skipIfKey => Branches p.core.pc p.NamesHeldKey c
  | .skipUnlessKey => Branches p.core.pc (¬ p.NamesHeldKey) c
  | _ => c.pc = p.core.pc + 2

/-! ### Skips -/

theorem Bounded.branches_skipIf (h : p.Bounded) (hf : p.Fetches) {holds : Bool}
    (hiff : holds = true ↔ condition) :
    Branches p.core.pc condition (p.passed.core.skipIf holds) := by
  obtain ⟨hpc, hlo, hhi⟩ := h.pc_passed hf
  cases holds with
  | true =>
    have hskip : (p.passed.core.skipIf true).pc = p.core.pc + 4 := by
      show wrap16 (p.passed.core.pc + 2) = _
      rw [wrap16_eq (by omega) (by omega), hpc]
      omega
    have hholds := hiff.mp rfl
    refine ⟨iff_of_true hskip hholds, iff_of_false ?_ (not_not_intro hholds)⟩
    omega
  | false =>
    have hpass : (p.passed.core.skipIf false).pc = p.core.pc + 2 := hpc
    have hfails := mt hiff.mpr Bool.false_ne_true
    refine ⟨iff_of_false ?_ hfails, iff_of_true hpass hfails⟩
    omega

theorem namesHeldKey_iff (h : (p.core.reg p.opcode.x).toNat < 16) :
    p.NamesHeldKey ↔ p.keypad.holds ⟨(p.core.reg p.opcode.x).toNat, h⟩ = true := by
  constructor
  · rintro ⟨key, hkey, hholds⟩
    simp only [← hkey]
    exact hholds
  · intro hholds
    exact ⟨_, rfl, hholds⟩

/-- A completed skip on a key has asked for a key that exists. -/
theorem lt_of_skipOnKey {key : UInt8} {held : Bool} (h : p.skipOnKey key held = ⟨q, none⟩) :
    key.toNat < 16 := by
  by_contra hkey
  rw [skipOnKey_of_le _ (Nat.le_of_not_lt hkey)] at h
  cases h

theorem Bounded.branches_skipOnKey (h : p.Bounded) (hf : p.Fetches) {held : Bool}
    (hp : p.passed.skipOnKey (p.core.reg p.opcode.x) held = ⟨q, none⟩) :
    Branches p.core.pc (p.NamesHeldKey ↔ held = true) q.core := by
  have hlt := lt_of_skipOnKey hp
  rw [skipOnKey_of_lt _ hlt] at hp
  cases hp
  refine h.branches_skipIf hf ?_
  rw [namesHeldKey_iff hlt, ← Bool.eq_iff_iff]
  exact beq_iff_eq

/-! ### All operations -/

/-- **Every completed operation leaves the program counter where it should.** -/
theorem Bounded.follows (h : p.Bounded) (hf : p.Fetches)
    (hp : p.passed.perform op p.opcode = ⟨q, none⟩) : p.Follows op q.core := by
  have hpc := (h.pc_passed hf).1
  have hq : q = (p.passed.perform op p.opcode).processor := by rw [hp]
  cases op with
  | returnFromCall =>
    rw [perform, leave] at hp
    show p.passed.core.stack = _
    cases hs : p.passed.core.stack with
    | nil =>
        rw [hs] at hp
        cases hp
    | cons top rest =>
        rw [hs] at hp
        cases hp
        rfl
  | jumpOffset =>
    have hjump : p.passed.perform .jumpOffset p.opcode = p.passed.jumpTo p.offsetTarget := rfl
    rw [hjump, jumpTo_offsetTarget] at hp
    cases hp
    exact rfl
  | waitKey =>
    have hkeypad : p.passed.keypad = p.keypad := rfl
    rw [perform, awaitKey, hkeypad] at hp
    cases hk : p.keypad.first? with
    | none =>
        rw [hk] at hp
        cases hp
        have hnone := Keypad.first?_eq_none_iff.mp hk
        refine ⟨fun _ => h.wrap16_passed_sub hf, ?_⟩
        rintro ⟨key, hheld⟩
        rw [hnone key] at hheld
        cases hheld
    | some key =>
        rw [hk] at hp
        cases hp
        have hheld := (Keypad.first?_eq_some_iff.mp hk).1
        refine ⟨?_, fun _ => hpc⟩
        intro hnone
        rw [hnone key] at hheld
        cases hheld
  | skipIfEqualImmediate | skipIfEqual =>
    rw [hq]
    exact h.branches_skipIf hf beq_iff_eq
  | skipUnlessEqualImmediate | skipUnlessEqual =>
    rw [hq]
    exact h.branches_skipIf hf bne_iff_ne
  | skipIfKey =>
    show Branches p.core.pc p.NamesHeldKey q.core
    simpa using h.branches_skipOnKey hf hp
  | skipUnlessKey =>
    show Branches p.core.pc (¬ p.NamesHeldKey) q.core
    simpa using h.branches_skipOnKey hf hp
  | draw =>
    rw [perform] at hp
    cases he : (p.passed.memory.readEach p.passed.core.index p.opcode.n).2 with
    | none =>
        rw [drawSprite_of_ok he] at hp
        cases hp
        exact hpc
    | some e =>
        rw [drawSprite_of_error he] at hp
        cases hp
  | storeDigits | storeRegisters =>
    rw [hq, perform, storeAtIndex_eq]
    exact hpc
  | loadRegisters =>
    rw [hq, perform, loadAtIndex_eq]
    exact hpc
  | call | jump =>
    rw [hq]
    rfl
  | clearScreen | loadImmediate | addImmediate | load | or | and | xor | add | subtract
  | subtractReverse | shiftRight | shiftLeft | loadIndex | random | readDelay | setDelay
  | setSound | addIndex | loadGlyph =>
    rw [hq]
    exact hpc

/-! ### Opposite skips -/

/-- Two opcodes with the same operands, the second of which skips whenever the first does not. -/
inductive Opposed (a b : Opcode) : Operation → Operation → Prop
  | immediate (hx : b.x = a.x) (hnn : b.nn = a.nn) :
      Opposed a b .skipIfEqualImmediate .skipUnlessEqualImmediate
  | register (hx : b.x = a.x) (hy : b.y = a.y) : Opposed a b .skipIfEqual .skipUnlessEqual
  | key (hx : b.x = a.x) : Opposed a b .skipIfKey .skipUnlessKey

/-- Whether one of two cores has skipped an instruction where the other has gone straight on. -/
structure Apart (pc : Int) (c c' : Core) : Prop where
  skips : c'.pc = pc + 4 ↔ c.pc = pc + 2
  passes : c'.pc = pc + 2 ↔ c.pc = pc + 4

theorem Apart.symm {pc : Int} (h : Apart pc c c') : Apart pc c' c :=
  ⟨h.passes.symm, h.skips.symm⟩

theorem Branches.apart {pc : Int} (h : Branches pc condition c)
    (h' : Branches pc (¬ condition) c') : Apart pc c c' where
  skips := h'.skips.trans h.passes.symm
  passes := h'.passes.trans (not_not.trans h.skips.symm)

variable {memory : Memory}

theorem Follows.apart (ho : Opposed p.opcode { p with memory }.opcode op op')
    (h : p.Follows op c) (h' : { p with memory }.Follows op' c') : Apart p.core.pc c c' := by
  cases ho with
  | immediate hx hnn =>
      have hb : Branches p.core.pc (p.core.reg _ ≠ _) c' := h'
      rw [hx, hnn] at hb
      exact Branches.apart h hb
  | register hx hy =>
      have hb : Branches p.core.pc (p.core.reg _ ≠ p.core.reg _) c' := h'
      rw [hx, hy] at hb
      exact Branches.apart h hb
  | key hx =>
      have hiff : { p with memory }.NamesHeldKey ↔ p.NamesHeldKey := by
        rw [NamesHeldKey, hx]
        rfl
      have hb : Branches p.core.pc (¬ { p with memory }.NamesHeldKey) c' := h'
      rw [hiff] at hb
      exact Branches.apart h hb

/-- An operation is completed if its opposite is. -/
theorem perform_opposed {p' : Processor} (hcore : p'.core = p.core) {a b : Opcode}
    (ho : Opposed a b op op' ∨ Opposed b a op' op) (hp : p.perform op a = ⟨q, none⟩) :
    ∃ q', p'.perform op' b = ⟨q', none⟩ := by
  -- Only a key that does not exist can fail a skip, and both name the same key.
  have hkey : ∀ {held held'}, p.skipOnKey (p.core.reg a.x) held = ⟨q, none⟩ → b.x = a.x →
      ∃ q', p'.skipOnKey (p'.core.reg b.x) held' = ⟨q', none⟩ := by
    intro held held' hskip hx
    have hlt := lt_of_skipOnKey hskip
    rw [← hcore, ← hx] at hlt
    exact ⟨_, skipOnKey_of_lt _ hlt⟩
  rcases ho with ho | ho
  · cases ho with
    | immediate | register => exact ⟨_, rfl⟩
    | key hx => exact hkey hp hx
  · cases ho with
    | immediate | register => exact ⟨_, rfl⟩
    | key hx => exact hkey hp hx.symm

variable {setup : Setup}

/--
**Where every completed step goes**, under the standard table and for every reachable processor:
the program counter ends where the operation says that the opcode encodes, and nothing on the way
is cut to sixteen bits.  With an opposite instruction in its place and all else equal, a skip
is completed as well and takes the other way.
-/
theorem step_follows (h : Reachable setup p) (ht : setup.table = .standard) {decoded : Decoded}
    (hd : p.step.1 = .completed decoded) :
    decoded.opcode = p.opcode ∧ ∃ op, p.At op ∧ p.Follows op p.step.2.core ∧
      ∀ (memory : Memory) (p' : Processor) (op' : Operation), memory.start = p.memory.start →
        memory.size = p.memory.size → { p with memory } = p' → p'.At op' →
        Opposed p.opcode p'.opcode op op' ∨ Opposed p'.opcode p.opcode op' op →
        (∃ i, p'.step.1 = .completed ⟨p'.opcode, i⟩) ∧
          Apart p.core.pc p.step.2.core p'.step.2.core := by
  have hb := h.bounded
  have ht := h.table.trans ht
  have hn := running_of_completed hd
  obtain ⟨hopcode, op, q, hat, hp, hq⟩ := performed_of_completed ht hd
  have hfollows := hb.follows hat.1 hp
  rw [hq]
  refine ⟨hopcode, op, hat, hfollows, ?_⟩
  rintro memory p' op' hstart hsize rfl hat' ho
  have hb' : { p with memory }.Bounded :=
    { hb with start := hstart.trans hb.start, size := hsize.trans hb.size }
  have hcore : { p with memory }.passed.core = p.passed.core := rfl
  obtain ⟨q', hp'⟩ := perform_opposed hcore ho hp
  have hfollows' := hb'.follows hat'.1 hp'
  obtain ⟨i, hstep⟩ := step_of_at (p := { p with memory }) ht hn hat' hp'
  rw [hstep]
  refine ⟨⟨i, rfl⟩, ?_⟩
  rcases ho with ho | ho
  · exact hfollows.apart ho hfollows'
  · exact (Follows.apart (p := { p with memory }) ho hfollows' hfollows).symm

/-! ### A skip and its opposite -/

/-- A program that skips an instruction if a register is zero, which it is at first. -/
def skipsOnZero : Array UInt8 := #[0x30, 0x00]

/-- The same with the opposite skip. -/
def passesOnZero : Array UInt8 := #[0x40, 0x00]

theorem fits_skipsOnZero : FitsProgramSpace skipsOnZero := by decide

theorem fits_passesOnZero : FitsProgramSpace passesOnZero := by decide

/-- One goes on four bytes further and the other two. -/
theorem step_follows_skipsOnZero :
    (loaded skipsOnZero plainSetup).step.2.core.pc = 0x204 ∧
      (loaded passesOnZero plainSetup).step.2.core.pc = 0x202 := by
  have hat : (loaded skipsOnZero plainSetup).At .skipIfEqualImmediate :=
    at_of_image fits_skipsOnZero rfl (k := 0) rfl (by decide) rfl (by decide)
  have hat' : (loaded passesOnZero plainSetup).At .skipUnlessEqualImmediate :=
    at_of_image fits_passesOnZero rfl (k := 0) rfl (by decide) rfl (by decide)
  have hopcode : (loaded skipsOnZero plainSetup).opcode = 0x3000 :=
    opcode_of_image fits_skipsOnZero rfl (k := 0) rfl (by decide)
  have hopcode' : (loaded passesOnZero plainSetup).opcode = 0x4000 :=
    opcode_of_image fits_passesOnZero rfl (k := 0) rfl (by decide)
  obtain ⟨i, hstep⟩ := step_of_at rfl rfl hat rfl
  obtain ⟨-, op, hop, hfollows, hopposite⟩ := step_follows (reachable_loaded fits_skipsOnZero)
    rfl (congrArg Prod.fst hstep)
  obtain rfl := hat.eq hop
  have hskips : (loaded skipsOnZero plainSetup).step.2.core.pc = 0x204 := by
    refine Branches.skips hfollows |>.mpr ?_
    rw [hopcode]
    rfl
  have hsize : (Memory.loaded passesOnZero).size = (Memory.loaded skipsOnZero).size := by
    rw [Memory.size_loaded fits_passesOnZero, Memory.size_loaded fits_skipsOnZero]
  have hopposed : Opposed 0x3000 0x4000 .skipIfEqualImmediate .skipUnlessEqualImmediate :=
    .immediate (by decide) (by decide)
  rw [← hopcode, ← hopcode'] at hopposed
  obtain ⟨-, hapart⟩ := hopposite (Memory.loaded passesOnZero) (loaded passesOnZero plainSetup) _
    rfl hsize rfl hat' (.inl hopposed)
  exact ⟨hskips, hapart.passes.mpr hskips⟩

end Chip8.Processor
