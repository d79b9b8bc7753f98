/-
How far index, program counter and return addresses can go.

They are integers, but they stay so small that cutting them to sixteen bits never
changes them: `Core.Bounded` says where they lie, `bounded_perform` that every operation
keeps them there, and `Bounded.step` that every step does.

The bound on the program counter is what the induction rests on.  A fetch succeeds only
below the end of memory, so an operation meets a program counter between two and the
size of memory, whatever it was before; that is why the address it may push lies in
these bounds too, and why the longest jump, from a full twelve bits by a full register,
is the highest address of all.
-/
import Chip8.Proofs.Step

namespace Chip8

/-! ### Sixteen bits -/

theorem wrap16_eq {n : Int} (h : 0 ≤ n) (h' : n ≤ 0xFFFF) : wrap16 n = n :=
  Int.emod_eq_of_lt h (by omega)

theorem wrap16_nonneg (n : Int) : 0 ≤ wrap16 n := Int.emod_nonneg n (by decide)

theorem wrap16_le (n : Int) : wrap16 n ≤ 0xFFFF := by
  have := Int.emod_lt_of_pos n (by decide : (0 : Int) < 0x10000)
  unfold wrap16
  omega

theorem Opcode.nnn_lt (opcode : Opcode) : opcode.nnn < 0x1000 := by
  have h : (opcode : Int) % 4096 < 4096 := Int.emod_lt_of_pos _ (by decide)
  unfold Opcode.nnn
  unfold Opcode at *
  omega

/-! ### Cores within bounds -/

/-- The bounds of a core with no more than so many calls open. -/
structure Core.Bounded (c : Core) (calls : Nat) : Prop where
  index_nonneg : 0 ≤ c.index
  index_le : c.index ≤ 0xFFFF
  pc_nonneg : 0 ≤ c.pc
  /-- The highest address is that of a jump from `0xFFF` by a register of `0xFF`. -/
  pc_le : c.pc ≤ 0x10FE
  /-- A return address lies behind a call that was fetched. -/
  stack : ∀ a ∈ c.stack, 2 ≤ a ∧ a ≤ 0x1000
  depth : c.stack.length ≤ calls

namespace Core.Bounded

variable {c : Core} {calls : Nat}

theorem initial : Core.initial.Bounded 0 :=
  ⟨by decide, by decide, by decide, by decide, by decide, by decide⟩

theorem mono (h : c.Bounded calls) {more : Nat} (hle : calls ≤ more) : c.Bounded more :=
  { h with depth := Nat.le_trans h.depth hle }

/-- Registers and timers are out of the question. -/
theorem of_same (h : c.Bounded calls) {c' : Core} (hi : c'.index = c.index) (hp : c'.pc = c.pc)
    (hs : c'.stack = c.stack) : c'.Bounded calls :=
  ⟨hi ▸ h.index_nonneg, hi ▸ h.index_le, hp ▸ h.pc_nonneg, hp ▸ h.pc_le, hs ▸ h.stack,
    hs ▸ h.depth⟩

theorem setRegs (h : c.Bounded calls) (values : List UInt8) :
    (c.setRegs values).Bounded calls := by
  rw [Core.setRegs]
  exact { h with }

theorem withPc (h : c.Bounded calls) {pc : Int} (h0 : 0 ≤ pc) (h1 : pc ≤ 0x10FE) :
    ({ c with pc } : Core).Bounded calls :=
  { h with pc_nonneg := h0, pc_le := h1 }

theorem withIndex (h : c.Bounded calls) {index : Int} (h0 : 0 ≤ index) (h1 : index ≤ 0xFFFF) :
    ({ c with index } : Core).Bounded calls :=
  { h with index_nonneg := h0, index_le := h1 }

theorem advance (h : c.Bounded calls) {bytes : Int} (h0 : 0 ≤ c.pc + bytes)
    (h1 : c.pc + bytes ≤ 0x10FE) : (c.advance bytes).Bounded calls := by
  rw [Core.advance, wrap16_eq h0 (by omega)]
  exact h.withPc h0 h1

theorem skipIf (h : c.Bounded calls) (hpc : c.pc ≤ 0x1000) (holds : Bool) :
    (c.skipIf holds).Bounded calls := by
  have := h.pc_nonneg
  cases holds with
  | false => exact h
  | true => exact h.advance (by omega) (by omega)

end Core.Bounded

namespace Processor

/-! ### Operations stay within bounds -/

variable {p q : Processor} {calls : Nat}

theorem bounded_leave (h : p.core.Bounded calls) : p.leave.processor.core.Bounded calls := by
  rw [leave]
  cases hs : p.core.stack with
  | nil => exact h
  | cons top rest =>
      have htop := h.stack top (hs ▸ List.mem_cons_self)
      have hdepth := h.depth
      rw [hs, List.length_cons] at hdepth
      exact { h with
        pc_nonneg := by show 0 ≤ top; omega
        pc_le := by show top ≤ 0x10FE; omega
        stack := fun a ha => h.stack a (hs ▸ List.mem_cons_of_mem top ha)
        depth := by show rest.length ≤ calls; omega }

theorem bounded_enter (h : p.core.Bounded calls) (hlo : 2 ≤ p.core.pc) (hhi : p.core.pc ≤ 0x1000)
    {target : Nat} (ht : target < 0x1000) :
    (p.enter target).processor.core.Bounded (calls + 1) where
  index_nonneg := h.index_nonneg
  index_le := h.index_le
  pc_nonneg := by show (0 : Int) ≤ target; omega
  pc_le := by show (target : Int) ≤ 0x10FE; omega
  stack := fun a ha => by
    rcases List.mem_cons.mp ha with rfl | ha
    · exact ⟨hlo, hhi⟩
    · exact h.stack a ha
  depth := Nat.succ_le_succ h.depth

theorem bounded_jumpTo (h : p.core.Bounded calls) {target : Int} (h0 : 0 ≤ target)
    (h1 : target ≤ 0x10FE) : (p.jumpTo target).processor.core.Bounded calls := by
  refine h.withPc ?_ ?_
  · split
    · exact Int.emod_nonneg _ (by decide)
    · exact wrap16_nonneg _
  · split
    · have := Int.emod_lt_of_pos target (by decide : (0 : Int) < 0x100)
      omega
    · rw [wrap16_eq h0 (by omega)]
      exact h1

/-- An operation that meets a core just behind a fetched instruction leaves a bounded one. -/
theorem bounded_perform (h : p.core.Bounded calls) (hlo : 2 ≤ p.core.pc)
    (hhi : p.core.pc ≤ 0x1000) (op : Operation) (opcode : Opcode) :
    (p.perform op opcode).processor.core.Bounded (calls + 1) := by
  have h' := h.mono (Nat.le_succ calls)
  have hnnn := opcode.nnn_lt
  cases op with
  | returnFromCall => exact bounded_leave h'
  | call => exact bounded_enter h hlo hhi hnnn
  | jump => exact h'.withPc (by omega) (by omega)
  | jumpOffset =>
    have hv := (p.core.reg 0).toNat_lt
    exact bounded_jumpTo h' (by omega) (by omega)
  | skipIfEqualImmediate | skipUnlessEqualImmediate | skipIfEqual | skipUnlessEqual =>
    exact h'.skipIf hhi _
  | skipIfKey | skipUnlessKey =>
    by_cases hk : 16 ≤ (p.core.reg opcode.x).toNat
    · rw [perform, skipOnKey_of_le _ hk]
      exact h'
    · rw [perform, skipOnKey_of_lt _ (Nat.not_le.mp hk)]
      exact h'.skipIf hhi _
  | waitKey =>
    rw [perform, awaitKey]
    cases p.keypad.first? with
    | none => exact h'.advance (by omega) (by omega)
    | some key => exact h'.of_same rfl rfl rfl
  | loadIndex => exact h'.withIndex (by omega) (by omega)
  | addIndex => exact h'.withIndex (wrap16_nonneg _) (wrap16_le _)
  | loadGlyph =>
    have hdigit : ((p.core.reg opcode.x).toNat : Int) % 16 < 16 :=
      Int.emod_lt_of_pos _ (by decide)
    have hdigit' : 0 ≤ ((p.core.reg opcode.x).toNat : Int) % 16 := Int.emod_nonneg _ (by decide)
    refine h'.withIndex ?_ ?_
    · unfold Font.glyphAddress Font.start Font.glyphSize
      omega
    · unfold Font.glyphAddress Font.start Font.glyphSize
      omega
  | draw =>
    rw [perform]
    cases he : (p.memory.readEach p.core.index opcode.n).2 with
    | none =>
        rw [drawSprite_of_ok he]
        exact h'.of_same rfl rfl rfl
    | some e =>
        rw [drawSprite_of_error he]
        exact h'
  | storeDigits | storeRegisters =>
    rw [perform, storeAtIndex_eq]
    exact h'
  | loadRegisters =>
    rw [perform, loadAtIndex_eq]
    exact h'.setRegs _
  | clearScreen => exact h'
  | loadImmediate | addImmediate | load | or | and | xor | add | subtract | subtractReverse
  | shiftRight | shiftLeft | random | readDelay | setDelay | setSound =>
    exact h'.of_same rfl rfl rfl

/-- An operation that is cut short opens no call. -/
theorem bounded_of_cutShort {op : Operation} {opcode : Opcode} {fault : Fault}
    (h : p.core.Bounded calls) (hc : CutShort p opcode op q fault) : q.core.Bounded calls := by
  cases hc with
  | emptyStack | noSuchKey | draw | store => exact h
  | loadRegisters => exact h.setRegs _

/-! ### Processors within bounds -/

/-- What is true of a processor between two requests. -/
structure Bounded (p : Processor) : Prop where
  core : p.core.Bounded p.completed
  start : p.memory.start = 0
  size : p.memory.size = memorySize
  width : p.screen.width = 64
  height : p.screen.height = 32

namespace Bounded

theorem contains_iff (h : p.Bounded) (address : Int) :
    p.memory.Contains address ↔ 0 ≤ address ∧ address ≤ 0xFFF := by
  rw [Memory.Contains, h.start, h.size, memorySize]
  omega

/-- A fetch leaves memory only at its far end. -/
theorem fetches_iff (h : p.Bounded) : p.Fetches ↔ p.core.pc < 0xFFF := by
  have := h.core.pc_nonneg
  rw [Fetches, h.contains_iff, h.contains_iff]
  omega

/-- Only the core and the count of instructions can leave the bounds. -/
theorem of_alike (h : p.Bounded) (ha : Alike p q) (hc : q.core.Bounded calls) :
    ({ q with completed := calls } : Processor).Bounded where
  core := hc
  start := ha.start.trans h.start
  size := ha.size.trans h.size
  width := ha.width.trans h.width
  height := ha.height.trans h.height

theorem halt (h : p.Bounded) : p.halt.Bounded := { h with }

/-- Where an operation starts: behind an instruction that lies in memory. -/
theorem pc_passed (h : p.Bounded) (hf : p.Fetches) :
    p.passed.core.pc = p.core.pc + 2 ∧ 2 ≤ p.passed.core.pc ∧ p.passed.core.pc ≤ 0x1000 := by
  have hlo := h.core.pc_nonneg
  have hhi := h.fetches_iff.mp hf
  have hpc : p.passed.core.pc = p.core.pc + 2 := wrap16_eq (by omega) (by omega)
  exact ⟨hpc, by omega, by omega⟩

/-- The fetch moves the program counter and nothing else. -/
theorem core_passed (h : p.Bounded) (hf : p.Fetches) :
    p.passed.core = { p.core with pc := p.core.pc + 2 } := by
  obtain ⟨hpc, -⟩ := h.pc_passed hf
  rw [← hpc]
  rfl

/-- Going back from behind an instruction leads to it. -/
theorem wrap16_passed_sub (h : p.Bounded) (hf : p.Fetches) :
    wrap16 (p.passed.core.pc - 2) = p.core.pc := by
  rw [(h.pc_passed hf).1, Int.add_sub_cancel]
  exact wrap16_eq h.core.pc_nonneg (Int.le_trans h.core.pc_le (by decide))

theorem passed (h : p.Bounded) (hf : p.Fetches) : p.passed.Bounded := by
  have hlo := h.core.pc_nonneg
  have hhi := h.fetches_iff.mp hf
  exact { h with core := h.core.advance (by omega) (by omega) }

theorem of_steps {outcome : StepOutcome} (h : p.Bounded) (hs : Steps p outcome q) :
    q.Bounded := by
  cases hs with
  | unfetched => exact h.halt
  | illegal hf | unknown hf => exact (h.passed hf).halt
  | @cut hf i op q fault hl hr hc =>
      have ha := alike_of_perform (perform_of_cutShort hc)
      have hq := (h.passed hf).of_alike ha (bounded_of_cutShort (h.passed hf).core hc)
      rw [← ha.completed] at hq
      exact hq.halt
  | @completed hf i op q hl hr hp =>
      obtain ⟨-, hlo, hhi⟩ := h.pc_passed hf
      have hcore := bounded_perform (h.passed hf).core hlo hhi op p.opcode
      rw [hp] at hcore
      exact (h.passed hf).of_alike (alike_of_perform hp) hcore

theorem step (h : p.Bounded) : p.step.2.Bounded := by
  cases hn : p.halted with
  | true =>
      rw [step_of_halted hn]
      exact h
  | false => exact h.of_steps (steps_of_running hn)

theorem tick (h : p.Bounded) : p.tick.Bounded := { h with core := h.core.of_same rfl rfl rfl }

/-! ### Transfers from the index on -/

theorem room_eq (h : p.Bounded) :
    p.memory.room p.core.index = (0x1000 - p.core.index).toNat := by
  rw [Memory.room, h.start, h.size, memorySize]
  omega

theorem start_le (h : p.Bounded) : (p.memory.start : Int) ≤ p.core.index := by
  rw [h.start]
  exact h.core.index_nonneg

/-- A transfer at the index fails if it reaches beyond the last address. -/
theorem overrun_eq_some_iff (h : p.Bounded) {count : Nat} {e : AccessError} :
    p.memory.overrun p.core.index count = some e
      ↔ 1 ≤ count ∧ 0xFFF < p.core.index + count - 1 ∧ e = ⟨max p.core.index 0x1000, 0, 0xFFF⟩ := by
  have hnonneg := h.core.index_nonneg
  rw [Memory.overrun, h.room_eq, Memory.outside, Memory.lastAddress, h.start, h.size, memorySize]
  by_cases hle : count ≤ (0x1000 - p.core.index).toNat
  · rw [if_pos hle]
    constructor
    · intro he
      cases he
    · intro he
      omega
  · rw [if_neg hle, Option.some.injEq]
    constructor
    · intro he
      exact ⟨by omega, by omega, he.symm⟩
    · intro he
      exact he.2.2.symm

theorem readEach_error_iff (h : p.Bounded) {count : Nat} {e : AccessError} :
    (p.memory.readEach p.core.index count).2 = some e
      ↔ 1 ≤ count ∧ 0xFFF < p.core.index + count - 1
        ∧ e = ⟨max p.core.index 0x1000, 0, 0xFFF⟩ := by
  rw [Memory.readEach_eq h.start_le]
  exact h.overrun_eq_some_iff

theorem writeEach_error_iff (h : p.Bounded) {values : List UInt8} {e : AccessError} :
    (p.memory.writeEach p.core.index values).2 = some e
      ↔ 1 ≤ values.length ∧ 0xFFF < p.core.index + values.length - 1
        ∧ e = ⟨max p.core.index 0x1000, 0, 0xFFF⟩ := by
  rw [Memory.writeEach_error h.start_le]
  exact h.overrun_eq_some_iff

/-- What a transfer from the index on reads, as far as memory goes. -/
theorem getD_readEach (h : p.Bounded) (count k : Nat) (default : UInt8) :
    (p.memory.readEach p.core.index count).1.getD k default
      = if k < count ∧ p.core.index + k ≤ 0xFFF then p.memory.byte (p.core.index + k)
        else default := by
  rw [Memory.readEach_eq h.start_le, h.room_eq, List.getD_eq_getElem?_getD, List.getElem?_map]
  by_cases hk : k < count ∧ p.core.index + k ≤ 0xFFF
  · have hlt : k < min count (0x1000 - p.core.index).toNat := by omega
    rw [List.getElem?_range hlt, if_pos hk]
    rfl
  · rw [List.getElem?_eq_none (by rw [List.length_range]; omega), if_neg hk]
    rfl

/-- What a transfer from the index on writes, as far as memory goes. -/
theorem byte_writeEach (h : p.Bounded) (values : List UInt8) (address : Int) :
    (p.memory.writeEach p.core.index values).1.byte address
      = if p.core.index ≤ address ∧ address < p.core.index + values.length ∧ address ≤ 0xFFF then
          values.getD (address - p.core.index).toNat 0
        else p.memory.byte address := by
  rw [Memory.byte_writeEach h.start_le, h.room_eq]
  by_cases hin : p.core.index ≤ address ∧ address < p.core.index + values.length ∧ address ≤ 0xFFF
  · rw [if_pos hin, if_pos (by omega)]
  · rw [if_neg hin, if_neg (by omega)]

end Bounded

end Processor

end Chip8
