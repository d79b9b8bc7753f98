/-
What a transfer between registers and memory carries over.

Three operations move several bytes: registers into the bytes from the index on, these bytes
into registers, and a number into three decimal digits.  One that stays inside memory moves
every byte it is asked for and changes nothing else.

Loading undoes storing if nothing touches the index and the stored bytes in between.  A step
that leaves them alone `Spares` them, and the induction over what the host asks for carries
along that they are as they were stored.  It asks nothing else of the instructions on the way,
which are the ones found in memory at their turn: the stored bytes may lie in the program and
be run as instructions themselves.
-/
import Chip8.Proofs.Arithmetic
import Chip8.Proofs.Frame

namespace Chip8.Processor

variable {p q : Processor} {op : Operation} {setup : Setup} {request : Request}
  {requests : List Request} {count : Nat}

/-! ### Transfers that stay inside memory -/

theorem Bounded.overrun_eq_none (h : p.Bounded) (hroom : p.core.index + count ≤ 0x1000) :
    p.memory.overrun p.core.index count = none := by
  rw [Memory.overrun, h.room_eq, if_pos (by omega)]

theorem Bounded.readEach_inside (h : p.Bounded) (hroom : p.core.index + count ≤ 0x1000) :
    (p.memory.readEach p.core.index count).2 = none := by
  rw [Memory.readEach_eq h.start_le]
  exact h.overrun_eq_none hroom

theorem Bounded.writeEach_inside (h : p.Bounded) {values : List UInt8}
    (hroom : p.core.index + values.length ≤ 0x1000) :
    (p.memory.writeEach p.core.index values).2 = none := by
  rw [Memory.writeEach_error h.start_le]
  exact h.overrun_eq_none hroom

/-- What storing so many bytes from the index on leaves as it was. -/
structure StoresOnly (p : Processor) (count : Nat) (q : Processor) : Prop where
  kept : ∀ address : Int, address < p.core.index ∨ p.core.index + count ≤ address →
    q.memory.byte address = p.memory.byte address
  range : q.memory.start = p.memory.start ∧ q.memory.size = p.memory.size
  /-- The registers and the index are as before; only the program counter has moved on. -/
  frame : q = { p with
    core := { p.core with pc := p.core.pc + 2 }
    memory := q.memory
    completed := p.completed + 1 }

/-- A step whose operation stores some bytes. -/
theorem Bounded.step_of_store (h : p.Bounded) (hn : p.halted = false) (hnext : p.Next op)
    (values : List UInt8) (hp : p.passed.perform op p.opcode = p.passed.storeAtIndex values)
    (hroom : p.core.index + values.length ≤ 0x1000) :
    (∃ i, p.step.1 = .completed ⟨p.opcode, i⟩) ∧ StoresOnly p values.length p.step.2 ∧
      ∀ k < values.length, p.step.2.memory.byte (p.core.index + k) = values.getD k 0 := by
  obtain ⟨hf, i, hl, hr⟩ := hnext
  have hpassed := h.passed hf
  have hinside : (p.memory.writeEach p.core.index values).2 = none := h.writeEach_inside hroom
  have hstep : p.step = (.completed ⟨p.opcode, i⟩, { p with
      core := { p.core with pc := p.core.pc + 2 }
      memory := (p.memory.writeEach p.core.index values).1
      completed := p.completed + 1 }) := by
    rw [← h.core_passed hf]
    refine step_of_steps hn (.completed hf hl hr (q := { p.passed with
      memory := (p.memory.writeEach p.core.index values).1 }) ?_)
    rw [hp, storeAtIndex_eq]
    show Effect.mk _ ((p.memory.writeEach p.core.index values).2.map .access) = _
    rw [hinside]
    rfl
  rw [hstep]
  refine ⟨⟨i, rfl⟩, ?_, ?_⟩
  · constructor
    case kept =>
      intro address hout
      refine h.byte_writeEach_of_ne ?_
      intro k hk _
      omega
    case range => exact ⟨Memory.start_writeEach _ _ _, Memory.size_writeEach _ _ _⟩
    case frame => rfl
  · intro k hk
    exact h.byte_writeEach_of_lt hk (by omega)

/-- Registers are stored one after the other. -/
theorem Bounded.step_of_storeRegisters (h : p.Bounded) (hn : p.halted = false)
    (hnext : p.Next .storeRegisters) (hroom : p.core.index + p.opcode.x ≤ 0xFFF) :
    (∃ i, p.step.1 = .completed ⟨p.opcode, i⟩) ∧
      StoresOnly p (p.opcode.x + 1) p.step.2 ∧
      ∀ r ≤ p.opcode.x, p.step.2.memory.byte (p.core.index + r) = p.core.reg r := by
  have hlen := length_regsUpTo p.core p.opcode.x
  have hstore := h.step_of_store hn hnext (p.core.regsUpTo p.opcode.x) rfl (by omega)
  rw [hlen] at hstore
  obtain ⟨hcompleted, honly, hbyte⟩ := hstore
  refine ⟨hcompleted, honly, ?_⟩
  intro r hr
  rw [hbyte r.val (Nat.lt_succ_of_le hr), getD_regsUpTo p.core hr]

/-- A byte is made of its decimal digits. -/
theorem sum_decimalDigits (value : UInt8) :
    100 * ((decimalDigits value).getD 0 0).toNat + 10 * ((decimalDigits value).getD 1 0).toNat
      + ((decimalDigits value).getD 2 0).toNat = value.toNat := by
  have hlt := value.toNat_lt
  simp only [getD_decimalDigits value (by decide : 0 < 3), getD_decimalDigits value
    (by decide : 1 < 3), getD_decimalDigits value (by decide : 2 < 3)]
  omega

/-- Digits are stored with the hundreds first. -/
theorem Bounded.step_of_storeDigits (h : p.Bounded) (hn : p.halted = false)
    (hnext : p.Next .storeDigits) (hroom : p.core.index + 2 ≤ 0xFFF) :
    (∃ i, p.step.1 = .completed ⟨p.opcode, i⟩) ∧ StoresOnly p 3 p.step.2 ∧
      (∀ k < 3, (p.step.2.memory.byte (p.core.index + (k : Nat))).toNat ≤ 9) ∧
      100 * (p.step.2.memory.byte p.core.index).toNat
        + 10 * (p.step.2.memory.byte (p.core.index + 1)).toNat
        + (p.step.2.memory.byte (p.core.index + 2)).toNat = (p.core.reg p.opcode.x).toNat := by
  have hthree : (decimalDigits (p.core.reg p.opcode.x)).length = 3 := rfl
  have hstore := h.step_of_store hn hnext (decimalDigits (p.core.reg p.opcode.x)) rfl (by omega)
  rw [hthree] at hstore
  obtain ⟨hcompleted, honly, hbyte⟩ := hstore
  refine ⟨hcompleted, honly, ?_, ?_⟩
  · intro k hk
    rw [hbyte k hk, getD_decimalDigits _ hk]
    omega
  · have hsum := sum_decimalDigits (p.core.reg p.opcode.x)
    rw [← hbyte 0 (by decide), ← hbyte 1 (by decide), ← hbyte 2 (by decide)] at hsum
    simpa using hsum

/-- What loading registers up to one leaves of a processor. -/
structure Loads (p q : Processor) : Prop where
  loaded : ∀ r ≤ p.opcode.x, q.core.reg r = p.memory.byte (p.core.index + r)
  kept : ∀ r, p.opcode.x < r → q.core.reg r = p.core.reg r
  /-- Nothing else changes, apart from the program counter and the count of instructions. -/
  frame : q = p.behind q.core.v

theorem Bounded.step_of_loadRegisters (h : p.Bounded) (hn : p.halted = false)
    (hnext : p.Next .loadRegisters) (hroom : p.core.index + p.opcode.x ≤ 0xFFF) :
    (∃ i, p.step.1 = .completed ⟨p.opcode, i⟩) ∧ Loads p p.step.2 := by
  obtain ⟨hf, i, hl, hr⟩ := hnext
  have hinside : (p.memory.readEach p.core.index (p.opcode.x + 1)).2 = none :=
    h.readEach_inside (by push_cast; omega)
  have hstep := h.step_of_registers hn hf hl hr
    (v := (p.passed.core.setRegs (p.memory.readEach p.core.index (p.opcode.x + 1)).1).v) (by
      rw [perform, loadAtIndex_eq]
      show Effect.mk _ ((p.memory.readEach p.core.index (p.opcode.x + 1)).2.map .access) = _
      rw [hinside]
      rfl)
  have hreg : ∀ r, p.step.2.core.reg r
      = (p.memory.readEach p.core.index (p.opcode.x + 1)).1.getD r.val (p.core.reg r) := by
    intro r
    rw [hstep]
    exact Core.reg_setRegs p.passed.core _ r
  refine ⟨⟨i, by rw [hstep]⟩, ?_⟩
  constructor
  case loaded =>
    intro r hr
    rw [hreg, h.getD_readEach, if_pos ⟨Nat.lt_succ_of_le hr, by omega⟩]
  case kept =>
    intro r hr
    rw [hreg, h.getD_readEach, if_neg (by omega)]
  case frame => rw [hstep]; rfl

/-! ### What is left alone meanwhile -/

/-- Whether the next step is completed and changes neither the index nor some bytes. -/
structure Spares (p : Processor) (first : Int) (count : Nat) : Prop where
  completed : ∃ decoded, p.step.1 = .completed decoded
  index : p.step.2.core.index = p.core.index
  bytes : ∀ k < count, p.step.2.memory.byte (first + k) = p.memory.byte (first + k)

/-- Every operation but five spares whatever bytes there are. -/
theorem Bounded.spares (h : p.Bounded) {decoded : Decoded} (hd : p.step.1 = .completed decoded)
    (hnext : p.Next op)
    (hindex : op ∉ [.loadIndex, .addIndex, .loadGlyph])
    (hmemory : op ∉ [.storeDigits, .storeRegisters]) (first : Int) (count : Nat) :
    p.Spares first count := by
  obtain ⟨-, op', q, hnext', hp, hq⟩ := next_of_completed hd
  rw [← hnext.eq hnext'] at hp
  have hframed := (h.passed hnext.1).framed_perform hp
  refine ⟨⟨decoded, hd⟩, ?_, ?_⟩
  · rw [hq]
    exact hframed.core.index hindex
  · intro k _
    rw [hq]
    exact congrArg (fun m : Memory => m.byte (first + k)) (hframed.memory hmemory)

/-- What has stayed the same of a processor that goes on. -/
structure Spared (p : Processor) (first : Int) (count : Nat) (q : Processor) : Prop where
  running : q.halted = false
  index : q.core.index = p.core.index
  bytes : ∀ k < count, q.memory.byte (first + k) = p.memory.byte (first + k)

theorem running_behind {decoded : Decoded} (hd : p.step.1 = .completed decoded) :
    p.step.2.halted = false := by
  have hstep : p.step = (.completed decoded, p.step.2) := by rw [← hd]
  exact halted_of_completed hstep

theorem Spares.spared {first : Int} (h : p.Spares first count) :
    Spared p first count p.step.2 := by
  obtain ⟨decoded, hd⟩ := h.completed
  exact ⟨running_behind hd, h.index, h.bytes⟩

/-- Only a step can fail to spare anything. -/
theorem spared_serve {first : Int} (hn : p.halted = false)
    (hspares : ∀ q ∈ p.asked request, q.Spares first count) :
    Spared p first count (p.serve request) := by
  cases request with
  | step => exact (hspares p (by simp [asked])).spared
  | tick => exact ⟨hn, rfl, fun _ _ => rfl⟩
  | acknowledge => exact ⟨hn, rfl, fun _ _ => rfl⟩
  | press index down =>
      rw [serve_press]
      exact ⟨hn, rfl, fun _ _ => rfl⟩

/-- **What every step on the way spares is the same at the end.** -/
theorem spared_serveEach {first : Int} (hn : p.halted = false)
    (hspares : ∀ q ∈ p.stepped requests, q.Spares first count) :
    Spared p first count (p.serveEach requests) := by
  induction requests generalizing p with
  | nil => exact ⟨hn, rfl, fun _ _ => rfl⟩
  | cons request rest ih =>
      rw [stepped] at hspares
      obtain ⟨hnow, hlater⟩ := List.forall_mem_append.mp hspares
      have hfirst := spared_serve hn hnow
      have hrest := ih hfirst.running hlater
      rw [serveEach_cons]
      refine ⟨hrest.running, hrest.index.trans hfirst.index, ?_⟩
      intro k hk
      rw [hrest.bytes k hk, hfirst.bytes k hk]

/-! ### Storing and loading -/

/-- **Loading restores what was stored**, if nothing on the way touched it. -/
theorem Reachable.restores (h : Reachable setup p) (hn : p.halted = false)
    (hstore : p.Next .storeRegisters) (hroom : p.core.index + p.opcode.x ≤ 0xFFF)
    (hspares : ∀ q ∈ p.step.2.stepped requests, q.Spares p.core.index (p.opcode.x + 1))
    (hq : p.step.2.serveEach requests = q) (hload : q.Next .loadRegisters)
    (hle : q.opcode.x ≤ p.opcode.x) :
    (∃ i, q.step.1 = .completed ⟨q.opcode, i⟩) ∧
      ∀ r ≤ q.opcode.x, q.step.2.core.reg r = p.core.reg r := by
  obtain ⟨⟨i, hd⟩, honly, hstored⟩ := h.bounded.step_of_storeRegisters hn hstore hroom
  have hspared := spared_serveEach (running_behind hd) hspares
  rw [hq] at hspared
  have hindex : q.core.index = p.core.index := by
    rw [hspared.index, honly.frame]
  have hreach : Reachable setup q := hq ▸ (h.serve .step).serveEach requests
  obtain ⟨hcompleted, hloads⟩ := hreach.bounded.step_of_loadRegisters hspared.running hload
    (by omega)
  refine ⟨hcompleted, ?_⟩
  intro r hr
  have hrx : r ≤ p.opcode.x := Fin.le_trans hr hle
  rw [hloads.loaded r hr, hindex, hspared.bytes r.val (Nat.lt_succ_of_le hrx), hstored r hrx]

/--
**Transfers are exact, and loading undoes storing.**  Every transfer that stays inside memory is
completed, for every reachable processor: registers, bytes and decimal digits are carried over one
by one and nothing else changes.  Registers that were stored come back when they are loaded, as
long as every step in between spares the index and the bytes stored, wherever these lie and
whatever else is asked for meanwhile.  Under the standard table the transfers are the opcodes of the
forms `Fx55`, `Fx65` and `Fx33`.
-/
theorem transfers_exact (h : Reachable setup p) (hn : p.halted = false) :
    (p.Next .storeRegisters → p.core.index + p.opcode.x ≤ 0xFFF →
      (∃ i, p.step.1 = .completed ⟨p.opcode, i⟩) ∧
      StoresOnly p (p.opcode.x + 1) p.step.2 ∧
      (∀ r ≤ p.opcode.x, p.step.2.memory.byte (p.core.index + r) = p.core.reg r) ∧
      ∀ requests q, (∀ s ∈ p.step.2.stepped requests, s.Spares p.core.index (p.opcode.x + 1)) →
        p.step.2.serveEach requests = q → q.Next .loadRegisters → q.opcode.x ≤ p.opcode.x →
        (∃ i, q.step.1 = .completed ⟨q.opcode, i⟩) ∧
          ∀ r ≤ q.opcode.x, q.step.2.core.reg r = p.core.reg r) ∧
    (p.Next .loadRegisters → p.core.index + p.opcode.x ≤ 0xFFF →
      (∃ i, p.step.1 = .completed ⟨p.opcode, i⟩) ∧ Loads p p.step.2) ∧
    (p.Next .storeDigits → p.core.index + 2 ≤ 0xFFF →
      (∃ i, p.step.1 = .completed ⟨p.opcode, i⟩) ∧
      StoresOnly p 3 p.step.2 ∧
      (∀ k < 3, (p.step.2.memory.byte (p.core.index + (k : Nat))).toNat ≤ 9) ∧
      100 * (p.step.2.memory.byte p.core.index).toNat
        + 10 * (p.step.2.memory.byte (p.core.index + 1)).toNat
        + (p.step.2.memory.byte (p.core.index + 2)).toNat = (p.core.reg p.opcode.x).toNat) ∧
    (setup.table = .standard → ∀ q, Reachable setup q →
      (q.Next .storeRegisters ↔ q.Fetches ∧ q.opcode.primary = 0xF ∧ q.opcode.nn = 0x55) ∧
      (q.Next .loadRegisters ↔ q.Fetches ∧ q.opcode.primary = 0xF ∧ q.opcode.nn = 0x65) ∧
      (q.Next .storeDigits ↔ q.Fetches ∧ q.opcode.primary = 0xF ∧ q.opcode.nn = 0x33)) := by
  have hb := h.bounded
  refine ⟨?_, fun hnext hroom => hb.step_of_loadRegisters hn hnext hroom,
    fun hnext hroom => hb.step_of_storeDigits hn hnext hroom, fun ht q hq =>
      ⟨hq.next_iff ht .storeRegisters, hq.next_iff ht .loadRegisters, hq.next_iff ht .storeDigits⟩⟩
  intro hnext hroom
  obtain ⟨hcompleted, honly, hstored⟩ := hb.step_of_storeRegisters hn hnext hroom
  refine ⟨hcompleted, honly, hstored, ?_⟩
  intro requests q hspares hq hload hle
  exact h.restores hn hnext hroom hspares hq hload hle

/-! ### A program that stores the instruction that loads -/

/-- A program that stores two registers behind its end, where they are an instruction. -/
def selfLoading : Array UInt8 := #[0x60, 0xF1, 0x61, 0x65, 0xA2, 0x0A, 0xF1, 0x55, 0x60, 0x00]

theorem fits_selfLoading : FitsProgramSpace selfLoading := by decide

/-- The processor that is about to store them. -/
def selfLoader : Processor :=
  { loaded selfLoading plainSetup with
    core := { (Core.initial.setReg 0 0xF1).setReg 1 0x65 with pc := 0x206, index := 0x20A }
    completed := 3 }

theorem reachable_selfLoader : Reachable plainSetup selfLoader := by
  have hfirst : Reachable plainSetup { loaded selfLoading plainSetup with
      core := { Core.initial.setReg 0 0xF1 with pc := 0x202 }
      completed := 1 } :=
    Reachable.step_of_image fits_selfLoading rfl (k := 0) rfl (by decide) rfl
      (reachable_loaded fits_selfLoading) rfl rfl rfl rfl rfl
  have hsecond : Reachable plainSetup { loaded selfLoading plainSetup with
      core := { (Core.initial.setReg 0 0xF1).setReg 1 0x65 with pc := 0x204 }
      completed := 2 } :=
    Reachable.step_of_image fits_selfLoading rfl (k := 2) rfl (by decide) rfl hfirst rfl rfl rfl
      rfl rfl
  exact Reachable.step_of_image fits_selfLoading rfl (k := 4) rfl (by decide) rfl hsecond rfl rfl
    rfl rfl rfl

theorem opcode_selfLoader : selfLoader.opcode = 0xF155 :=
  opcode_of_image fits_selfLoading rfl (k := 6) rfl (by decide)

theorem next_selfLoader : selfLoader.Next .storeRegisters := (next_iff_at rfl _).mpr
  (at_of_image fits_selfLoading rfl (k := 6) rfl (by decide) rfl (by decide))

/-- What the host finds at an instruction that is made of known bytes. -/
theorem Reachable.next_of_bytes (h : Reachable plainSetup p) {pc : Nat} (hpc : p.core.pc = pc)
    (hend : pc < 0xFFF) {word : Opcode} (he : word.Encodes op)
    (hword : ((p.memory.byte pc).toNat * 256 + (p.memory.byte (pc + 1)).toNat : Nat) = word) :
    p.opcode = word ∧ p.Next op := by
  have hopcode : p.opcode = word := by
    rw [opcode, hpc, ← hword]
    rfl
  refine ⟨hopcode, (next_iff_at h.table _).mpr ⟨h.bounded.fetches_iff.mpr (by omega), ?_⟩⟩
  rw [hopcode]
  exact he

/-- What is left when it has stored them. -/
structure HasStored (p : Processor) : Prop where
  reachable : Reachable plainSetup p
  running : p.halted = false
  pc : p.core.pc = 0x208
  bytes : ∀ address : Int, address < 0x20A →
    p.memory.byte address = (Memory.loaded selfLoading).byte address
  first : p.memory.byte 0x20A = 0xF1
  second : p.memory.byte 0x20B = 0x65

theorem hasStored_selfLoader (honly : StoresOnly selfLoader 2 p) (h : Reachable plainSetup p)
    (hn : p.halted = false)
    (hstored : ∀ r ≤ (1 : Fin 16),
      p.memory.byte (selfLoader.core.index + r) = selfLoader.core.reg r) : HasStored p where
  reachable := h
  running := hn
  pc := by
    rw [honly.frame]
    rfl
  bytes address hlt := honly.kept address (.inl hlt)
  first := hstored 0 (by decide)
  second := hstored 1 (by decide)

/-- The instruction behind the store is still the one of the program.  It clears a register. -/
theorem HasStored.next (h : HasStored p) : p.opcode = 0x6000 ∧ p.Next .loadImmediate := by
  refine h.reachable.next_of_bytes h.pc (by decide) (by decide) ?_
  rw [h.bytes _ (by decide), h.bytes _ (by decide), Memory.byte_loaded fits_selfLoading,
    Memory.byte_loaded fits_selfLoading]
  decide

theorem HasStored.spares (h : HasStored p) : p.Spares 0x20A 2 := by
  obtain ⟨⟨i, hd⟩, -⟩ := h.reachable.bounded.step_of_arithmetic h.running (by decide) h.next.2
  exact h.reachable.bounded.spares hd h.next.2 (by decide) (by decide) _ _

/-- The next one is what was stored. -/
theorem HasStored.next_step (h : HasStored p) :
    p.step.2.opcode = 0xF165 ∧ p.step.2.Next .loadRegisters ∧ p.step.2.core.reg 0 = 0 := by
  obtain ⟨-, hcomputes⟩ := h.reachable.bounded.step_of_arithmetic h.running (by decide) h.next.2
  have hfirst : p.step.2.memory.byte 0x20A = 0xF1 :=
    (h.spares.bytes 0 (by decide)).trans h.first
  have hsecond : p.step.2.memory.byte 0x20B = 0x65 :=
    (h.spares.bytes 1 (by decide)).trans h.second
  have hpc : p.step.2.core.pc = 0x20A := by
    rw [hcomputes.frame]
    show p.core.pc + 2 = 0x20A
    rw [h.pc]
    rfl
  have hreach : Reachable plainSetup p.step.2 := h.reachable.serve .step
  obtain ⟨hopcode, hnext⟩ := hreach.next_of_bytes hpc (by decide)
    (by decide : Opcode.Encodes 0xF165 .loadRegisters) (by
      show ((p.step.2.memory.byte 0x20A).toNat * 256 + (p.step.2.memory.byte 0x20B).toNat : Nat)
        = (_ : Opcode)
      rw [hfirst, hsecond]
      rfl)
  refine ⟨hopcode, hnext, ?_⟩
  have hzero := hcomputes.result
  rw [h.next.1] at hzero
  exact UInt8.toNat_inj.mp hzero

/--
The first register is cleared, and the instruction that brings its old value back is the one
that was stored.
-/
theorem transfers_exact_selfLoader :
    ∃ s q, selfLoader.step.2 = s ∧ s.step.2 = q ∧ q.opcode = 0xF165 ∧ q.core.reg 0 = 0 ∧
      q.step.2.core.reg 0 = 0xF1 ∧ q.step.2.core.reg 1 = 0x65 := by
  have hroom : selfLoader.core.index + selfLoader.opcode.x ≤ 0xFFF := by
    rw [opcode_selfLoader]
    decide
  obtain ⟨⟨i, hd⟩, honly, hstored, hback⟩ :=
    (transfers_exact reachable_selfLoader rfl).1 next_selfLoader hroom
  have hn := running_behind hd
  have hreach := reachable_selfLoader.serve .step
  rw [serve_step] at hreach
  rw [opcode_selfLoader] at honly hstored hback
  generalize selfLoader.step.2 = s at hn hreach honly hstored hback ⊢
  have h : HasStored s := hasStored_selfLoader honly hreach hn hstored
  obtain ⟨hopcode, hload, hzero⟩ := h.next_step
  have hspares : ∀ r ∈ s.stepped [.step], r.Spares 0x20A 2 := by
    simpa [stepped, asked] using h.spares
  have hserve : s.serveEach [.step] = s.step.2 := by
    rw [serveEach_cons, serveEach_nil, serve_step]
  obtain ⟨-, hregs⟩ := hback [.step] s.step.2 hspares hserve hload (by
    rw [hopcode]
    decide)
  rw [hopcode] at hregs
  exact ⟨s, s.step.2, rfl, rfl, hopcode, hzero, hregs 0 (by decide), hregs 1 (by decide)⟩

end Chip8.Processor
