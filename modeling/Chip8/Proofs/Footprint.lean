/-
What a completed instruction can change.

Every operation has a small footprint: a few registers (`Operation.Changes`), perhaps one
other part of the core, perhaps memory from the index on or the screen.  `Framed` says that
everything outside it is as before, and `framed_perform` proves it operation by operation.
Most operations change the core alone, so the laws about cores come first and are put
together from single changes by transitivity.

The random source is part of the footprint of one operation only.  As that operation is
never cut short, the numbers a program has used are exactly the first ones of its source,
in order and without a gap, whatever else the host asked for in between.
-/
import Chip8.Proofs.Requests
import Chip8.Proofs.Residue
import Mathlib.Data.Int.Bitwise

namespace Chip8

/-! ### Bytes of integers -/

theorem toNat_ofInt (n : Int) : (UInt8.ofInt n).toNat = (n % 256).toNat := by
  have hlt : (n % 256).toNat < 256 := by omega
  exact Nat.mod_eq_of_lt hlt

/-- A byte has the lowest eight bits of the integer it is made from. -/
theorem testBit_toNat_ofInt (n : Int) (i : Nat) :
    (UInt8.ofInt n).toNat.testBit i = (decide (i < 8) && n.testBit i) := by
  rw [toNat_ofInt]
  cases n with
  | ofNat k =>
      have hmod : (Int.ofNat k % 256).toNat = k % 2 ^ 8 := by
        show ((k : Int) % 256).toNat = k % 256
        omega
      rw [hmod, Nat.testBit_mod_two_pow]
      rfl
  | negSucc k =>
      have hmod : (Int.negSucc k % 256).toNat = 2 ^ 8 - (k % 2 ^ 8 + 1) := by
        show (Int.negSucc k % 256).toNat = 256 - (k % 256 + 1)
        omega
      have hlt : k % 2 ^ 8 < 2 ^ 8 := Nat.mod_lt k (by decide)
      rw [hmod, Nat.testBit_two_pow_sub_succ hlt, Nat.testBit_mod_two_pow]
      show (decide (i < 8) && !(decide (i < 8) && k.testBit i)) = (decide (i < 8) && !k.testBit i)
      cases decide (i < 8) with
      | false => rfl
      | true => rfl

/-- The lowest eight bits of an integer under a mask are the integer under that mask. -/
theorem toNat_ofInt_and (n : Int) (mask : UInt8) :
    ((UInt8.ofInt n &&& mask).toNat : Int) = Int.land n mask.toNat := by
  have hbits : ∀ i, (UInt8.ofInt n &&& mask).toNat.testBit i
      = (n.testBit i && mask.toNat.testBit i) := by
    intro i
    rw [UInt8.toNat_and, Nat.testBit_and, testBit_toNat_ofInt]
    by_cases hi : i < 8
    · rw [decide_eq_true hi, Bool.true_and]
    · have hmask : mask.toNat < 2 ^ i :=
        Nat.lt_of_lt_of_le mask.toNat_lt (Nat.pow_le_pow_right (by decide) (Nat.not_lt.mp hi))
      rw [Nat.testBit_lt_two_pow hmask, Bool.and_false, Bool.and_false]
  cases n with
  | ofNat k =>
      show ((UInt8.ofInt k &&& mask).toNat : Int) = ((k &&& mask.toNat : Nat) : Int)
      refine congrArg Int.ofNat (Nat.eq_of_testBit_eq ?_)
      intro i
      rw [Nat.testBit_and]
      exact hbits i
  | negSucc k =>
      show ((UInt8.ofInt (Int.negSucc k) &&& mask).toNat : Int)
        = ((mask.toNat.ldiff k : Nat) : Int)
      refine congrArg Int.ofNat (Nat.eq_of_testBit_eq ?_)
      intro i
      rw [Nat.testBit_ldiff, Bool.and_comm]
      exact hbits i

/-! ### Numbers of a random source -/

namespace RandomSource

/-- The source after so many draws. -/
def after (source : RandomSource) : Nat → RandomSource
  | 0 => source
  | count + 1 => source.draw.2.after count

/-- The number that the source gives after so many others. -/
def output (source : RandomSource) (k : Nat) : Int := (source.after k).draw.1

theorem after_add (source : RandomSource) (m n : Nat) :
    source.after (m + n) = (source.after m).after n := by
  induction m generalizing source with
  | zero => rw [Nat.zero_add, after]
  | succ m ih => rw [Nat.succ_add, after, after, ih]

end RandomSource

/-! ### Registers -/

/--
Whether an operation may change a register, if `x` is the register that its opcode names
first.
-/
def Operation.Changes (x : Fin 16) (op : Operation) (r : Fin 16) : Prop :=
  match op with
  | .loadImmediate | .addImmediate | .load | .or | .and | .xor | .random | .readDelay
  | .waitKey => r = x
  | .add | .subtract | .shiftRight | .subtractReverse | .shiftLeft => r = x ∨ r = 15
  | .draw => r = 15
  | .loadRegisters => r ≤ x
  | .clearScreen | .returnFromCall | .call | .jump | .skipIfEqualImmediate
  | .skipUnlessEqualImmediate | .skipIfEqual | .skipUnlessEqual | .loadIndex | .jumpOffset
  | .skipIfKey | .skipUnlessKey | .setDelay | .setSound | .addIndex | .loadGlyph | .storeDigits
  | .storeRegisters => False

namespace Core

/-- What an operation leaves of a core as it was. -/
structure Framed (c : Core) (op : Operation) (x : Fin 16) (c' : Core) : Prop where
  register : ∀ r, ¬ op.Changes x r → c'.reg r = c.reg r
  index : op ∉ [.loadIndex, .addIndex, .loadGlyph] → c'.index = c.index
  stack : op ∉ [.returnFromCall, .call] → c'.stack = c.stack
  delay : op ≠ .setDelay → c'.delay = c.delay
  sound : op ≠ .setSound → c'.sound = c.sound

namespace Framed

variable {c c' c'' : Core} {op : Operation} {x : Fin 16}

theorem refl (c : Core) (op : Operation) (x : Fin 16) : c.Framed op x c :=
  ⟨fun _ _ => rfl, fun _ => rfl, fun _ => rfl, fun _ => rfl, fun _ => rfl⟩

theorem trans (h : c.Framed op x c') (h' : c'.Framed op x c'') : c.Framed op x c'' where
  register r hr := (h'.register r hr).trans (h.register r hr)
  index hop := (h'.index hop).trans (h.index hop)
  stack hop := (h'.stack hop).trans (h.stack hop)
  delay hop := (h'.delay hop).trans (h.delay hop)
  sound hop := (h'.sound hop).trans (h.sound hop)

/-- The program counter is in no footprint, as every instruction moves it. -/
theorem withPc (c : Core) (op : Operation) (x : Fin 16) (pc : Int) :
    c.Framed op x { c with pc } := { refl c op x with }

theorem skipIf (c : Core) (op : Operation) (x : Fin 16) (holds : Bool) :
    c.Framed op x (c.skipIf holds) := by
  cases holds with
  | false => exact refl c op x
  | true => exact withPc c op x _

theorem setReg (c : Core) {r : Fin 16} (hr : op.Changes x r) (value : UInt8) :
    c.Framed op x (c.setReg r value) :=
  { refl c op x with
    register := by
      intro q hq
      have hne : r ≠ q := by
        intro he
        exact hq (he ▸ hr)
      rw [reg_setReg, if_neg hne] }

theorem setFlag (c : Core) (hr : op.Changes x 15) (holds : Bool) :
    c.Framed op x (c.setFlag holds) := setReg c hr _

end Framed

end Core

namespace Processor

variable {p q : Processor} {op : Operation} {opcode : Opcode}

theorem framed_resultThenFlag (c : Core) {x : Fin 16} (hx : op.Changes x x)
    (hf : op.Changes x 15) (result : UInt8 × Bool) :
    c.Framed op x (resultThenFlag c x result) := by
  rw [resultThenFlag]
  exact (Core.Framed.setReg c hx result.1).trans (Core.Framed.setFlag _ hf result.2)

theorem framed_flagThenShift (c : Core) {x : Fin 16} (hx : op.Changes x x)
    (hf : op.Changes x 15) (bit : Bool) (shift : UInt8 → UInt8) :
    c.Framed op x (flagThenShift c x bit shift) := by
  rw [flagThenShift]
  exact (Core.Framed.setFlag c hf bit).trans (Core.Framed.setReg _ hx _)

theorem framed_setRegs (c : Core) {x : Fin 16} {values : List UInt8}
    (hlen : values.length ≤ x.val + 1) : c.Framed .loadRegisters x (c.setRegs values) := by
  have hreg : ∀ r : Fin 16, ¬ r ≤ x → (c.setRegs values).reg r = c.reg r := by
    intro r hr
    have hle : values.length ≤ r.val := by omega
    rw [Core.reg_setRegs, List.getD_eq_default _ _ hle]
  rw [Core.setRegs] at hreg ⊢
  exact { Core.Framed.refl c .loadRegisters x with register := hreg }

/-! ### Operations -/

/-- What an operation leaves of a processor as it was. -/
structure Framed (p : Processor) (op : Operation) (opcode : Opcode) (q : Processor) : Prop where
  core : p.core.Framed op opcode.x q.core
  memory : op ∉ [.storeDigits, .storeRegisters] → q.memory = p.memory
  /-- Digits are stored in the three bytes from the index on, -/
  digits : op = .storeDigits → ∀ address : Int,
    address < p.core.index ∨ p.core.index + 2 < address →
      q.memory.byte address = p.memory.byte address
  /-- and each register in one. -/
  registers : op = .storeRegisters → ∀ address : Int,
    address < p.core.index ∨ p.core.index + opcode.x < address →
      q.memory.byte address = p.memory.byte address
  screen : op ∉ [.clearScreen, .draw] → q.screen = p.screen
  /-- The redraw note is only ever made, not taken back. -/
  redraw : q.redraw = (p.redraw || decide (op ∈ [.clearScreen, .draw]))
  random : op ≠ .random → q.random = p.random
  /-- The next number of the source, and no more than one, goes into the register. -/
  drawn : op = .random → q.random = p.random.draw.2 ∧
    ((q.core.reg opcode.x).toNat : Int) = Int.land p.random.draw.1 opcode.nn.toNat

theorem Framed.ofCore {c : Core} (hc : p.core.Framed op opcode.x c)
    (hop : op ∉ [.clearScreen, .draw, .random, .storeDigits, .storeRegisters]) :
    p.Framed op opcode { p with core := c } where
  core := hc
  memory _ := rfl
  digits he := absurd (by rw [he]; decide) hop
  registers he := absurd (by rw [he]; decide) hop
  screen _ := rfl
  redraw := by
    have hnot : op ∉ [.clearScreen, .draw] := by
      intro hmem
      have hall := List.mem_append_left [Operation.random, .storeDigits, .storeRegisters] hmem
      exact hop hall
    rw [decide_eq_false hnot, Bool.or_false]
  random _ := rfl
  drawn he := absurd (by rw [he]; decide) hop

theorem framed_clearScreen (p : Processor) (opcode : Opcode) :
    p.Framed .clearScreen opcode { p with screen := p.screen.clear, redraw := true } where
  core := .refl _ _ _
  memory _ := rfl
  digits he := nomatch he
  registers he := nomatch he
  screen hop := absurd (by decide) hop
  redraw := (Bool.or_true p.redraw).symm
  random _ := rfl
  drawn he := nomatch he

theorem drawRandom_eq (p : Processor) (r : Fin 16) (mask : UInt8) :
    p.drawRandom r mask
      = .done { p with
          core := p.core.setReg r (UInt8.ofInt p.random.draw.1 &&& mask)
          random := p.random.draw.2 } := rfl

theorem framed_random (p : Processor) (opcode : Opcode) :
    p.Framed .random opcode (p.drawRandom opcode.x opcode.nn).processor := by
  rw [drawRandom_eq]
  have hx : Operation.Changes opcode.x .random opcode.x := rfl
  exact {
    core := .setReg _ hx _
    memory := fun _ => rfl
    digits := fun he => nomatch he
    registers := fun he => nomatch he
    screen := fun _ => rfl
    redraw := (Bool.or_false p.redraw).symm
    random := fun hop => absurd rfl hop
    drawn := by
      intro _
      refine ⟨rfl, ?_⟩
      rw [← toNat_ofInt_and]
      show ((Core.reg (Core.setReg _ _ _) _).toNat : Int) = _
      rw [Core.reg_setReg, if_pos rfl] }

theorem framed_draw (h : (p.memory.readEach p.core.index opcode.n).2 = none) :
    p.Framed .draw opcode
      (p.drawSprite (p.core.reg opcode.x) (p.core.reg opcode.y) opcode.n).processor := by
  rw [drawSprite_of_ok h]
  have hf : Operation.Changes opcode.x .draw 15 := rfl
  exact {
    core := .setFlag _ hf _
    memory := fun _ => rfl
    digits := fun he => nomatch he
    registers := fun he => nomatch he
    screen := fun hop => absurd (by decide) hop
    redraw := (Bool.or_true p.redraw).symm
    random := fun _ => rfl
    drawn := fun he => nomatch he }

theorem Bounded.framed_storeDigits (h : p.Bounded) (opcode : Opcode) :
    p.Framed .storeDigits opcode
      (p.storeAtIndex (decimalDigits (p.core.reg opcode.x))).processor := by
  rw [storeAtIndex_eq]
  exact {
    core := .refl _ _ _
    memory := fun hop => absurd (by decide) hop
    digits := by
      intro _ address hout
      refine h.byte_writeEach_of_ne fun k hk _ => ?_
      have hthree : k < 3 := hk
      omega
    registers := fun he => nomatch he
    screen := fun _ => rfl
    redraw := (Bool.or_false p.redraw).symm
    random := fun _ => rfl
    drawn := fun he => nomatch he }

theorem Bounded.framed_storeRegisters (h : p.Bounded) (opcode : Opcode) :
    p.Framed .storeRegisters opcode
      (p.storeAtIndex (p.core.regsUpTo opcode.x)).processor := by
  rw [storeAtIndex_eq]
  exact {
    core := .refl _ _ _
    memory := fun hop => absurd (by decide) hop
    digits := fun he => nomatch he
    registers := by
      intro _ address hout
      refine h.byte_writeEach_of_ne fun k hk _ => ?_
      rw [length_regsUpTo] at hk
      omega
    screen := fun _ => rfl
    redraw := (Bool.or_false p.redraw).symm
    random := fun _ => rfl
    drawn := fun he => nomatch he }

theorem Bounded.framed_loadRegisters (h : p.Bounded) (opcode : Opcode) :
    p.Framed .loadRegisters opcode (p.loadAtIndex opcode.x).processor := by
  rw [loadAtIndex_eq]
  exact .ofCore (framed_setRegs _ (h.length_readEach_le _)) (by decide)

/-- **Every operation stays within its footprint.** -/
theorem Bounded.framed_perform (h : p.Bounded) (hp : p.perform op opcode = ⟨q, none⟩) :
    p.Framed op opcode q := by
  have hq : q = (p.perform op opcode).processor := by rw [hp]
  rw [hq]
  cases op with
  | clearScreen => exact framed_clearScreen p opcode
  | random => exact framed_random p opcode
  | storeDigits => exact h.framed_storeDigits opcode
  | storeRegisters => exact h.framed_storeRegisters opcode
  | loadRegisters => exact h.framed_loadRegisters opcode
  | draw =>
    refine framed_draw (Option.eq_none_iff_forall_ne_some.mpr ?_)
    intro e he
    rw [perform, drawSprite_of_error he] at hp
    cases hp
  | returnFromCall =>
    rw [perform, leave] at hp ⊢
    cases hs : p.core.stack with
    | nil =>
        rw [hs] at hp
        cases hp
    | cons top rest =>
        exact .ofCore { Core.Framed.withPc p.core .returnFromCall _ top with
          stack := fun hop => absurd (by decide) hop } (by decide)
  | call =>
    exact .ofCore { Core.Framed.withPc p.core .call _ opcode.nnn with
      stack := fun hop => absurd (by decide) hop } (by decide)
  | jump | jumpOffset => exact .ofCore (.withPc _ _ _ _) (by decide)
  | skipIfEqualImmediate | skipUnlessEqualImmediate | skipIfEqual | skipUnlessEqual =>
    exact .ofCore (.skipIf _ _ _ _) (by decide)
  | skipIfKey | skipUnlessKey =>
    by_cases hk : 16 ≤ (p.core.reg opcode.x).toNat
    · rw [perform, skipOnKey_of_le _ hk] at hp
      cases hp
    · rw [perform, skipOnKey_of_lt _ (Nat.not_le.mp hk)]
      exact .ofCore (.skipIf _ _ _ _) (by decide)
  | waitKey =>
    rw [perform, awaitKey]
    cases p.keypad.first? with
    | none => exact .ofCore (.withPc _ _ _ _) (by decide)
    | some key =>
        refine .ofCore (.setReg _ ?_ _) (by decide)
        exact rfl
  | loadImmediate | addImmediate | load | or | and | xor | readDelay =>
    refine .ofCore (.setReg _ ?_ _) (by decide)
    exact rfl
  | add | subtract | subtractReverse =>
    refine .ofCore (framed_resultThenFlag _ ?_ ?_ _) (by decide)
    · exact .inl rfl
    · exact .inr rfl
  | shiftRight | shiftLeft =>
    refine .ofCore (framed_flagThenShift _ ?_ ?_ _ _) (by decide)
    · exact .inl rfl
    · exact .inr rfl
  | loadIndex | addIndex | loadGlyph =>
    exact .ofCore { Core.Framed.refl p.core _ _ with
      index := fun hop => absurd (by decide) hop } (by decide)
  | setDelay =>
    exact .ofCore { Core.Framed.refl p.core .setDelay _ with
      delay := fun hop => absurd rfl hop } (by decide)
  | setSound =>
    exact .ofCore { Core.Framed.refl p.core .setSound _ with
      sound := fun hop => absurd rfl hop } (by decide)

/-! ### Steps -/

/-- A step whose operation is completed. -/
theorem step_of_at (ht : p.table = .standard) (hn : p.halted = false) (hat : p.At op)
    (hp : p.passed.perform op p.opcode = ⟨q, none⟩) :
    ∃ i, p.step = (.completed ⟨p.opcode, i⟩, { q with completed := p.completed + 1 }) := by
  obtain ⟨hf, i, hl, hr⟩ := (next_iff_at ht op).mpr hat
  exact ⟨i, step_of_steps hn (.completed hf hl hr hp)⟩

/-- A step whose instruction is still as the program has it. -/
theorem step_of_image (op : Operation) {image : Array UInt8} (hfit : FitsProgramSpace image)
    (hm : p.memory = Memory.loaded image) {k : Nat} (hpc : p.core.pc = 0x200 + k)
    (hk : k + 1 < image.size) {word : Opcode}
    (hw : ((image.getD k 0).toNat * 256 + (image.getD (k + 1) 0).toNat : Nat) = word)
    (he : word.Encodes op) (ht : p.table = .standard) (hn : p.halted = false)
    (hp : p.passed.perform op word = ⟨q, none⟩) :
    ∃ i, p.step = (.completed ⟨word, i⟩, { q with completed := p.completed + 1 }) := by
  have hopcode := (opcode_of_image hfit hm hpc hk).trans hw
  rw [← hopcode] at hp ⊢
  exact step_of_at ht hn (at_of_image hfit hm hpc hk hw he) hp

/-- The fetch only moves the program counter, which is in no footprint. -/
theorem Framed.of_passed (h : p.passed.Framed op opcode q) (count : Nat) :
    p.Framed op opcode { q with completed := count } where
  core := (Core.Framed.withPc p.core op opcode.x _).trans h.core
  memory := h.memory
  digits := h.digits
  registers := h.registers
  screen := h.screen
  redraw := h.redraw
  random := h.random
  drawn := h.drawn

theorem running_of_completed {decoded : Decoded} (hd : p.step.1 = .completed decoded) :
    p.halted = false := by
  cases hn : p.halted with
  | false => rfl
  | true =>
      rw [step_of_halted hn] at hd
      cases hd

/-- A completed step has carried out the operation that its table has for the opcode. -/
theorem next_of_completed {decoded : Decoded} (hd : p.step.1 = .completed decoded) :
    decoded.opcode = p.opcode ∧ ∃ op q, p.Next op ∧ p.passed.perform op p.opcode = ⟨q, none⟩ ∧
      p.step.2 = { q with completed := p.completed + 1 } := by
  have hs := steps_of_running (running_of_completed hd)
  generalize p.step = result at hs hd
  obtain ⟨outcome, final⟩ := result
  cases hs with
  | unfetched | illegal | unknown | cut => cases hd
  | @completed hf i op q hl hr hp =>
      cases hd
      exact ⟨rfl, op, q, ⟨hf, i, hl, hr⟩, hp, rfl⟩

/-- Under the standard table that is the operation its opcode stands for. -/
theorem performed_of_completed (ht : p.table = .standard) {decoded : Decoded}
    (hd : p.step.1 = .completed decoded) :
    decoded.opcode = p.opcode ∧ ∃ op q, p.At op ∧ p.passed.perform op p.opcode = ⟨q, none⟩ ∧
      p.step.2 = { q with completed := p.completed + 1 } := by
  obtain ⟨hopcode, op, q, hnext, hp, hq⟩ := next_of_completed hd
  exact ⟨hopcode, op, q, (next_iff_at ht op).mp hnext, hp, hq⟩

theorem Bounded.framed_of_completed (h : p.Bounded) (ht : p.table = .standard)
    {decoded : Decoded} (hd : p.step.1 = .completed decoded) :
    decoded.opcode = p.opcode ∧ ∃ op, p.At op ∧ p.Framed op p.opcode p.step.2 ∧
      Alike p { p.step.2 with completed := p.completed } ∧
      p.step.2.completed = p.completed + 1 := by
  obtain ⟨hopcode, op, q, hat, hp, hq⟩ := performed_of_completed ht hd
  have hframed := (h.passed hat.1).framed_perform hp
  rw [hq]
  exact ⟨hopcode, op, hat, hframed.of_passed _,
    { alike_of_perform hp with completed := rfl }, rfl⟩

/-! ### The numbers a program uses -/

/-- The number of random numbers that serving a request takes. -/
def draws (p : Processor) : Request → Nat
  | .step => if p.halted = false ∧ p.At .random then 1 else 0
  | .tick | .press _ _ | .acknowledge => 0

/-- The number of random numbers that serving several requests takes. -/
def drawsIn (p : Processor) : List Request → Nat
  | [] => 0
  | request :: rest => p.draws request + (p.serve request).drawsIn rest

theorem step_of_random (ht : p.table = .standard) (hn : p.halted = false) (hat : p.At .random) :
    ∃ decoded, p.step.1 = .completed decoded := by
  obtain ⟨i, hstep⟩ := step_of_at ht hn hat (drawRandom_eq _ _ _)
  exact ⟨_, by rw [hstep]⟩

variable {setup : Setup}

theorem Reachable.residue_of_failed (h : Reachable setup p) (ht : setup.table = .standard)
    (hn : p.halted = false) {fault : Fault} {reached : Option Decoded}
    (hs : p.step.1 = .failed fault reached) : Residue p p.step.2 := by
  have hb := h.bounded
  have he : p.step.1.toExcept = .error fault := by rw [hs, StepOutcome.toExcept]
  exact (fails_of_steps hb (h.table.trans ht) (steps_of_running hn) he).residue hb

/-- A step draws a number if its operation does, and else leaves the source alone. -/
theorem Reachable.random_step (h : Reachable setup p) (ht : setup.table = .standard) :
    p.step.2.random = p.random.after (p.draws .step) := by
  have htable := h.table.trans ht
  rw [draws]
  cases hn : p.halted with
  | true =>
      rw [step_of_halted hn, if_neg (by simp)]
      rfl
  | false =>
      cases hs : p.step.1 with
      | completed decoded =>
          obtain ⟨-, op, hat, hframed, -⟩ := h.bounded.framed_of_completed htable hs
          by_cases hop : op = .random
          · rw [if_pos ⟨rfl, hop ▸ hat⟩]
            exact (hframed.drawn hop).1
          · have hnot : ¬ p.At .random := fun hat' => hop (hat.eq hat')
            rw [if_neg (fun hc => hnot hc.2)]
            exact hframed.random hop
      | failed fault reached =>
          -- An operation that draws is never cut short, so a step that failed was another.
          have hnot : ¬ p.At .random := by
            intro hat
            obtain ⟨decoded, hd⟩ := step_of_random htable hn hat
            rw [hs] at hd
            cases hd
          rw [if_neg (fun hc => hnot hc.2)]
          have hrandom := congrArg Processor.random (h.residue_of_failed ht hn hs).frame
          exact hrandom

theorem Reachable.random_serve (h : Reachable setup p) (ht : setup.table = .standard)
    (request : Request) : (p.serve request).random = p.random.after (p.draws request) := by
  cases request with
  | step => exact h.random_step ht
  | press index down =>
    rw [serve_press]
    rfl
  | tick | acknowledge => rfl

/-- The source is where the numbers drawn so far have brought it. -/
theorem Reachable.random_serveEach (h : Reachable setup p) (ht : setup.table = .standard)
    (requests : List Request) :
    (p.serveEach requests).random = p.random.after (p.drawsIn requests) := by
  induction requests generalizing p with
  | nil => rfl
  | cons request rest ih =>
      rw [serveEach_cons, ih (h.serve request), h.random_serve ht, drawsIn,
        RandomSource.after_add]

/--
**A completed instruction changes nothing outside its footprint**, and it counts as one
instruction.  **The random instructions of a run use the numbers of the source one by
one**: each of them gets the number behind those that were drawn before.
-/
theorem step_footprint (h : Reachable setup p) (ht : setup.table = .standard) :
    (∀ decoded, p.step.1 = .completed decoded →
      decoded.opcode = p.opcode ∧ ∃ op, p.At op ∧ p.Framed op p.opcode p.step.2 ∧
        Alike p { p.step.2 with completed := p.completed } ∧
        p.step.2.completed = p.completed + 1) ∧
    ∀ requests,
      (p.serveEach requests).random = p.random.after (p.drawsIn requests) ∧
      ((p.serveEach requests).halted = false → (p.serveEach requests).At .random →
        (∃ decoded, (p.serveEach requests).step.1 = .completed decoded) ∧
        (((p.serveEach requests).step.2.core.reg (p.serveEach requests).opcode.x).toNat : Int)
          = Int.land (p.random.output (p.drawsIn requests))
              (p.serveEach requests).opcode.nn.toNat) := by
  constructor
  · intro decoded hd
    exact h.bounded.framed_of_completed (h.table.trans ht) hd
  · intro requests
    have hq := h.serveEach requests
    have htable := hq.table.trans ht
    have hrandom := h.random_serveEach ht requests
    refine ⟨hrandom, ?_⟩
    intro hn hat
    obtain ⟨decoded, hd⟩ := step_of_random htable hn hat
    obtain ⟨-, op, hat', hframed, -⟩ := hq.bounded.framed_of_completed htable hd
    have hdrawn := (hframed.drawn (hat'.eq hat)).2
    rw [hrandom] at hdrawn
    exact ⟨⟨decoded, hd⟩, hdrawn⟩

/-- A program that draws two numbers. -/
def twoDraws : Array UInt8 := #[0xC0, 0xFF, 0xC1, 0x0F]

theorem fits_twoDraws : FitsProgramSpace twoDraws := by decide

/-- A set-up whose random numbers count up. -/
def countingSetup : Setup := { random := .sequence (fun k => 0x5A + k) 0 }

/-- The processor that is about to draw them. -/
def twoDrawer : Processor := loaded twoDraws countingSetup

/-- What the first draw leaves. -/
def onceDrawn : Processor :=
  { twoDrawer with
    core := { Core.initial.setReg 0 0x5A with pc := 0x202 }
    random := .sequence (fun k => 0x5A + k) 1
    completed := 1 }

theorem at_twoDrawer : twoDrawer.At .random :=
  at_of_image fits_twoDraws rfl (k := 0) rfl (by decide) rfl (by decide)

theorem opcode_twoDrawer : twoDrawer.opcode = 0xC0FF :=
  opcode_of_image fits_twoDraws rfl (k := 0) rfl (by decide)

theorem serve_twoDrawer : twoDrawer.serve .step = onceDrawn ∧ twoDrawer.drawsIn [.step] = 1 := by
  constructor
  · obtain ⟨i, hstep⟩ := step_of_at rfl rfl at_twoDrawer (drawRandom_eq _ _ _)
    rw [Processor.serve, hstep, opcode_twoDrawer]
    rfl
  · rw [drawsIn, drawsIn, draws, if_pos ⟨rfl, at_twoDrawer⟩]

/--
The first random instruction leaves the other register alone, and the second one uses the
second number of the source.
-/
theorem step_footprint_twoDrawer :
    twoDrawer.step.2.core.reg 1 = twoDrawer.core.reg 1 ∧
      (twoDrawer.serveEach [.step]).At .random ∧
      (((twoDrawer.serveEach [.step]).step.2.core.reg 1).toNat : Int) = 0x5B % 0x10 := by
  obtain ⟨hserve, hdraws⟩ := serve_twoDrawer
  have hat : (twoDrawer.serveEach [.step]).At .random := by
    rw [serveEach_cons, serveEach_nil, hserve]
    exact at_of_image fits_twoDraws rfl (k := 2) rfl (by decide) rfl (by decide)
  have hopcode : (twoDrawer.serveEach [.step]).opcode = 0xC10F := by
    rw [serveEach_cons, serveEach_nil, hserve]
    exact opcode_of_image fits_twoDraws rfl (k := 2) rfl (by decide)
  have hn : (twoDrawer.serveEach [.step]).halted = false := by
    rw [serveEach_cons, serveEach_nil, hserve]
    rfl
  have hreach : Reachable countingSetup twoDrawer := reachable_loaded fits_twoDraws
  obtain ⟨hcompleted, hrun⟩ := step_footprint hreach rfl
  refine ⟨?_, hat, ?_⟩
  · obtain ⟨decoded, hd⟩ := step_of_random rfl rfl at_twoDrawer
    obtain ⟨-, op, hat', hframed, -⟩ := hcompleted decoded hd
    refine hframed.core.register 1 ?_
    rw [hat'.eq at_twoDrawer, opcode_twoDrawer]
    exact (by decide : (1 : Fin 16) ≠ Opcode.x 0xC0FF)
  · obtain ⟨-, hdrawn⟩ := (hrun [.step]).2 hn hat
    rw [hopcode, hdraws] at hdrawn
    exact hdrawn

end Processor

end Chip8
