/-
How long the built-in digits last.

They lie in memory below the program, where only a store can change them.  `Stores` tells what a
step stores, be it completed or cut short, and `byte_step_of_not_stores` that it changes no other
byte; so digits into which nothing is stored outlast whatever the host asks for.

Looking up a digit takes the index to the first row of its glyph.  A glyph ends far below the end
of memory, so a drawing of no more rows than it has cannot fail; and as the lower half of each
row is empty, such a drawing reaches no further than the fourth column.
-/
import Chip8.Proofs.Transfers

namespace Chip8

namespace Font

/-- A row of the glyph of a digit, counted from the top. -/
def row (digit k : Nat) : UInt8 := glyphs.getD (5 * digit + k) 0

/-- Whether the glyph of a digit covers a cell of its four columns. -/
def covers (digit : Nat) (column k : Int) : Bool :=
  decide (column < 4) && (row digit k.toNat).toNat.testBit (7 - column).toNat

theorem lower_half_of_mem {bits : UInt8} (h : bits ∈ glyphs) : bits.toNat % 16 = 0 := by
  have hall : glyphs.toList.all (fun bits => bits.toNat % 16 == 0) = true := by decide
  exact beq_iff_eq.mp (List.all_eq_true.mp hall bits (Array.mem_toList_iff.mpr h))

/-- The lower half of a row is empty. -/
theorem testBit_row_of_lt (digit k : Nat) {bit : Nat} (hbit : bit < 4) :
    (row digit k).toNat.testBit bit = false := by
  have hzero : (row digit k).toNat % 2 ^ 4 = 0 := by
    rw [row, Array.getD_eq_getD_getElem?]
    cases hget : glyphs[5 * digit + k]? with
    | none => rfl
    | some bits => exact lower_half_of_mem (Array.mem_of_getElem? hget)
  have hmod := Nat.testBit_mod_two_pow (row digit k).toNat 4 bit
  rw [hzero, Nat.zero_testBit, decide_eq_true hbit, Bool.true_and] at hmod
  exact hmod.symm

end Font

namespace Processor

variable {p q : Processor} {setup : Setup} {request : Request} {requests : List Request}

/-! ### What a step stores -/

/-- Whether the next step stores a value at an address, before it is completed or cut short. -/
inductive Stores (p : Processor) (address : Int) : UInt8 → Prop
  /-- Digits go to the three addresses from the index on, -/
  | digit (hn : p.halted = false) (hnext : p.Next .storeDigits) {k : Nat} (hk : k < 3)
      (haddress : address = p.core.index + k) (hend : address ≤ 0xFFF) :
      Stores p address ((decimalDigits (p.core.reg p.opcode.x)).getD k 0)
  /-- and registers to one address each. -/
  | register (hn : p.halted = false) (hnext : p.Next .storeRegisters) {r : Fin 16}
      (hr : r ≤ p.opcode.x) (haddress : address = p.core.index + r) (hend : address ≤ 0xFFF) :
      Stores p address (p.core.reg r)

/-- A step that is to store some bytes stores as many as lie in memory, even if it is cut short. -/
theorem memory_step_of_store {op : Operation} (hn : p.halted = false) (hnext : p.Next op)
    {values : List UInt8} (hp : p.passed.perform op p.opcode = p.passed.storeAtIndex values) :
    p.step.2.memory = (p.memory.writeEach p.core.index values).1 := by
  obtain ⟨hf, i, hl, hr⟩ := hnext
  have hpassed : p.passed.memory.writeEach p.passed.core.index values
      = p.memory.writeEach p.core.index values := rfl
  rw [step_of_lookup_some hn hf hl, execute_of_operation hr, hp, storeAtIndex_eq, hpassed]
  cases (p.memory.writeEach p.core.index values).2 with
  | none => rfl
  | some e => rfl

/-- Any other step leaves memory alone. -/
theorem Bounded.memory_step_of_no_store (h : p.Bounded) (hdigits : ¬ p.Next .storeDigits)
    (hregisters : ¬ p.Next .storeRegisters) : p.step.2.memory = p.memory := by
  cases hn : p.halted with
  | true => rw [step_of_halted hn]
  | false =>
      have hsteps := steps_of_running hn
      generalize p.step = result at hsteps ⊢
      obtain ⟨outcome, q⟩ := result
      cases hsteps with
      | unfetched | illegal | unknown => rfl
      | cut hf hl hr hc =>
          cases hc with
          | emptyStack | noSuchKey | draw | loadRegisters => rfl
          | store hop _ =>
              rcases hop with ⟨rfl, -⟩ | ⟨rfl, -⟩
              · exact absurd ⟨hf, _, hl, hr⟩ hdigits
              · exact absurd ⟨hf, _, hl, hr⟩ hregisters
      | @completed hf i op q hl hr hp =>
          refine ((h.passed hf).framed_perform hp).memory fun hmem => ?_
          rcases List.mem_pair.mp hmem with rfl | rfl
          · exact hdigits ⟨hf, i, hl, hr⟩
          · exact hregisters ⟨hf, i, hl, hr⟩

theorem Bounded.byte_step_of_stores (h : p.Bounded) {address : Int} {value : UInt8}
    (hs : p.Stores address value) : p.step.2.memory.byte address = value := by
  cases hs with
  | digit hn hnext hk haddress hend =>
      rw [memory_step_of_store hn hnext rfl, haddress]
      exact h.byte_writeEach_of_lt hk (haddress ▸ hend)
  | @register hn hnext r hr haddress hend =>
      have hlt : r.val < (p.core.regsUpTo p.opcode.x).length := by
        rw [length_regsUpTo]
        exact Nat.lt_succ_of_le hr
      rw [memory_step_of_store hn hnext rfl, haddress, ← getD_regsUpTo p.core hr]
      exact h.byte_writeEach_of_lt hlt (haddress ▸ hend)

/-- **A step changes memory only where it stores.** -/
theorem Bounded.byte_step_of_not_stores (h : p.Bounded) {address : Int}
    (hs : ∀ value, ¬ p.Stores address value) :
    p.step.2.memory.byte address = p.memory.byte address := by
  cases hn : p.halted with
  | true => rw [step_of_halted hn]
  | false =>
      by_cases hdigits : p.Next .storeDigits
      · rw [memory_step_of_store hn hdigits rfl]
        refine h.byte_writeEach_of_ne fun k hk hend haddress => ?_
        exact hs _ (.digit hn hdigits hk haddress (haddress ▸ hend))
      · by_cases hregisters : p.Next .storeRegisters
        · rw [memory_step_of_store hn hregisters rfl]
          refine h.byte_writeEach_of_ne fun k hk hend haddress => ?_
          rw [length_regsUpTo] at hk
          have hlt : k < 16 := by omega
          exact hs _ (.register hn hregisters (r := ⟨k, hlt⟩) (Nat.le_of_lt_succ hk) haddress
            (haddress ▸ hend))
        · rw [h.memory_step_of_no_store hdigits hregisters]

/-! ### The digits in memory -/

/-- Whether all digits lie in memory as they were loaded. -/
def HasFont (p : Processor) : Prop :=
  ∀ j < 80, p.memory.byte (0x050 + (j : Nat)) = Font.glyphs.getD j 0

/-- Whether the next step stores nothing among the digits. -/
def SparesFont (p : Processor) : Prop :=
  ∀ address value, p.Stores address value → address < 0x050 ∨ 0x09F < address

theorem hasFont_loaded {image : Array UInt8} (hfit : FitsProgramSpace image) (setup : Setup) :
    (loaded image setup).HasFont := by
  intro j hj
  show (Memory.loaded image).byte _ = _
  rw [Memory.byte_loaded hfit, if_neg (by omega), if_pos (by omega),
    show (0x050 + (j : Int) - 0x050).toNat = j by omega]

theorem HasFont.step (hfont : p.HasFont) (h : p.Bounded) (hspares : p.SparesFont) :
    p.step.2.HasFont := by
  intro j hj
  rw [h.byte_step_of_not_stores, hfont j hj]
  intro value hs
  have hout := hspares _ value hs
  omega

theorem HasFont.serve (hfont : p.HasFont) (h : p.Bounded)
    (hspares : ∀ q ∈ p.asked request, q.SparesFont) : (p.serve request).HasFont := by
  cases request with
  | step => exact hfont.step h (hspares p (by simp [asked]))
  | tick | acknowledge => exact hfont
  | press index down =>
    rw [serve_press]
    exact hfont

/-- **Digits into which nothing is stored are there after every request.** -/
theorem HasFont.serveEach (hfont : p.HasFont) (h : p.Bounded)
    (hspares : ∀ q ∈ p.stepped requests, q.SparesFont) : (p.serveEach requests).HasFont := by
  induction requests generalizing p with
  | nil => exact hfont
  | cons request rest ih =>
      rw [stepped] at hspares
      obtain ⟨hnow, hlater⟩ := List.forall_mem_append.mp hspares
      rw [serveEach_cons]
      exact ih (hfont.serve h hnow) (h.serve request) hlater

/-! ### Looking up a digit -/

/-- Whether the index is at the glyph of a digit, and its rows are there. -/
structure AtGlyph (p : Processor) (digit : Nat) : Prop where
  digit_lt : digit < 16
  index : p.core.index = 0x050 + 5 * digit
  rows : ∀ k < 5, p.memory.byte (p.core.index + (k : Nat)) = Font.row digit k

/-- The digit that a register stands for is its last one. -/
def digit (p : Processor) : Nat := (p.core.reg p.opcode.x).toNat % 16

theorem Bounded.step_of_loadGlyph (h : p.Bounded) (hn : p.halted = false)
    (hnext : p.Next .loadGlyph) :
    ∃ i, p.step = (.completed ⟨p.opcode, i⟩, { p with
      core := { p.core with pc := p.core.pc + 2, index := 0x050 + 5 * p.digit }
      completed := p.completed + 1 }) := by
  obtain ⟨hf, i, hl, hr⟩ := hnext
  have hindex : Font.glyphAddress (p.core.reg p.opcode.x).toNat = 0x050 + 5 * p.digit := by
    unfold Font.glyphAddress Font.start Font.glyphSize digit
    omega
  have hstep := step_of_steps hn (.completed hf hl hr (q := { p.passed with
    core := { p.passed.core with
      index := Font.glyphAddress (p.core.reg p.opcode.x).toNat } }) rfl)
  rw [h.core_passed hf, hindex] at hstep
  exact ⟨i, hstep⟩

theorem HasFont.atGlyph (hfont : p.HasFont) {digit : Nat} (hlt : digit < 16)
    (hindex : p.core.index = 0x050 + 5 * digit) : p.AtGlyph digit where
  digit_lt := hlt
  index := hindex
  rows k hk := by
    rw [Font.row, ← hfont (5 * digit + k) (by omega), hindex]
    congr 1
    omega

theorem AtGlyph.of_spared {digit : Nat} (h : p.AtGlyph digit)
    (hs : Spared p p.core.index 5 q) : q.AtGlyph digit where
  digit_lt := h.digit_lt
  index := hs.index.trans h.index
  rows k hk := by rw [hs.index, hs.bytes k hk, h.rows k hk]

/-! ### Drawing a digit -/

/-- What drawing some rows of a digit leaves of a processor. -/
structure DrawsDigit (digit : Nat) (p q : Processor) : Prop extends Draws p q where
  /-- A cell is flipped if the glyph covers it. -/
  glyph : ∀ u v : Int, q.screen.lit u v
    = (p.screen.lit u v ^^
        (decide ((v - p.originY) % 32 < p.opcode.n)
          && Font.covers digit ((u - p.originX) % 64) ((v - p.originY) % 32)))
  /-- No cell is touched outside the first four columns. -/
  narrow : ∀ cell ∈ p.flipped, ∃ column < 4, ∃ k < p.opcode.n,
    cell = p.screen.index (p.originX + (column : Nat)) (p.originY + (k : Nat))

theorem AtGlyph.spriteAt_eq {digit : Nat} (h : p.AtGlyph digit) {k : Int} (hk : 0 ≤ k)
    (hk' : k < 5) {column : Int} (hcolumn : 0 ≤ column) :
    p.spriteAt column k = Font.covers digit column k := by
  have hrow : p.memory.byte (p.core.index + k) = Font.row digit k.toNat := by
    rw [← h.rows k.toNat (by omega), Int.toNat_of_nonneg hk]
  rw [spriteAt, Font.covers, hrow]
  by_cases hupper : column < 4
  · rw [decide_eq_true hupper, decide_eq_true (by omega : column < 8)]
  · rw [decide_eq_false hupper, Bool.false_and]
    by_cases hlower : column < 8
    · rw [Font.testBit_row_of_lt digit k.toNat (by omega), Bool.and_false]
    · rw [decide_eq_false hlower, Bool.false_and]

/-- **A drawing at a glyph draws the glyph**, if it is no higher. -/
theorem AtGlyph.step_of_draw {digit : Nat} (hglyph : p.AtGlyph digit) (h : p.Bounded)
    (hn : p.halted = false) (hnext : p.Next .draw) (hrows : p.opcode.n ≤ 5) :
    (∃ i, p.step.1 = .completed ⟨p.opcode, i⟩) ∧ DrawsDigit digit p p.step.2 := by
  have hinside : p.opcode.n = 0 ∨ p.core.index + p.opcode.n - 1 ≤ 0xFFF := by
    have hindex := hglyph.index
    have hlt := hglyph.digit_lt
    omega
  obtain ⟨i, hstep⟩ := h.step_of_draw hn hnext hinside
  have hdraws := h.draws hinside
  rw [hstep]
  refine ⟨⟨i, rfl⟩, { hdraws with glyph := ?_, narrow := ?_ }⟩
  · intro u v
    rw [hdraws.lit u v]
    by_cases hrow : (v - p.originY) % 32 < p.opcode.n
    · rw [hglyph.spriteAt_eq (Int.emod_nonneg _ (by decide)) (by omega)
        (Int.emod_nonneg _ (by decide))]
    · rw [decide_eq_false hrow, Bool.false_and, Bool.false_and]
  · intro cell hcell
    obtain ⟨⟨column, k⟩, hmem, rfl⟩ := List.mem_map.mp hcell
    have hbit := Screen.mem_spriteOffsets.mp hmem
    rw [h.spriteBit_readEach, Bool.and_eq_true, decide_eq_true_eq] at hbit
    obtain ⟨⟨hk, -⟩, hcovers⟩ := hbit
    rw [hglyph.spriteAt_eq (by omega) (by omega) (by omega), Font.covers, Bool.and_eq_true,
      decide_eq_true_eq] at hcovers
    exact ⟨column, by omega, k, hk, rfl⟩

/--
**Digits stay drawable** as long as no step stores among them: they are in memory at every point
of a run, a step that looks up a digit takes the index to its five rows, and a drawing of no more
than five rows that is the next instruction never fails and draws the first rows of the digit,
touching nothing outside four columns.  What the host asks for between these two steps makes no
difference.  Under the standard table the opcodes that look up a digit are those of the form `Fx29`,
those that draw begin with `D`, and those that store are of the forms `Fx33` and `Fx55`.
-/
theorem digits_stay_drawable {image : Array UInt8} (hstart : start image setup = .ok p)
    (hspares : ∀ q ∈ p.stepped requests, q.SparesFont) (hq : p.serveEach requests = q) :
    q.HasFont ∧
    (q.halted = false → q.Next .loadGlyph →
      (∃ i, q.step.1 = .completed ⟨q.opcode, i⟩) ∧ q.step.2.AtGlyph q.digit ∧
      ∀ others r, q.step.2.stepped others = [] → q.step.2.serveEach others = r →
        r.Next .draw → r.opcode.n ≤ 5 →
        (∃ i, r.step.1 = .completed ⟨r.opcode, i⟩) ∧ DrawsDigit q.digit r r.step.2) ∧
    (setup.table = .standard → ∀ s, Reachable setup s →
      (s.Next .loadGlyph ↔ s.Fetches ∧ s.opcode.primary = 0xF ∧ s.opcode.nn = 0x29) ∧
      (s.Next .draw ↔ s.Fetches ∧ s.opcode.primary = 0xD) ∧
      (s.Next .storeDigits ↔ s.Fetches ∧ s.opcode.primary = 0xF ∧ s.opcode.nn = 0x33) ∧
      (s.Next .storeRegisters ↔ s.Fetches ∧ s.opcode.primary = 0xF ∧ s.opcode.nn = 0x55)) := by
  obtain ⟨hfit, rfl⟩ := start_eq_ok_iff.mp hstart
  have hloaded := bounded_loaded hfit setup
  have hfont := (hasFont_loaded hfit setup).serveEach hloaded hspares
  rw [hq] at hfont
  refine ⟨hfont, ?_, fun ht s hs => ⟨hs.next_iff ht .loadGlyph, hs.next_iff ht .draw,
    hs.next_iff ht .storeDigits, hs.next_iff ht .storeRegisters⟩⟩
  intro hn hnext
  have hreach : Reachable setup q := hq ▸ (reachable_loaded hfit).serveEach requests
  obtain ⟨i, hstep⟩ := hreach.bounded.step_of_loadGlyph hn hnext
  have hd : q.step.1 = .completed ⟨q.opcode, i⟩ := by rw [hstep]
  have hglyph : q.step.2.AtGlyph q.digit := by
    have hlt : q.digit < 16 := Nat.mod_lt _ (by decide)
    refine HasFont.atGlyph ?_ hlt ?_
    · rw [hstep]
      exact hfont
    · rw [hstep]
  refine ⟨⟨i, hd⟩, hglyph, ?_⟩
  intro others r hothers hr hdraw hrows
  have hspared : Spared q.step.2 q.step.2.core.index 5 r := by
    rw [← hr]
    refine spared_serveEach (running_behind hd) ?_
    rw [hothers]
    intro s hmem
    cases hmem
  have hb : r.Bounded := hr ▸ ((hreach.serve .step).serveEach others).bounded
  exact (hglyph.of_spared hspared).step_of_draw hb hspared.running hdraw hrows

/-! ### A program that stores just before the digits -/

theorem sparesFont_of_next {op : Operation} (hnext : p.Next op)
    (hop : op ∉ [.storeDigits, .storeRegisters]) : p.SparesFont := by
  intro address value hs
  cases hs with
  | digit _ hstore => exact absurd (by rw [hnext.eq hstore]; decide) hop
  | register _ hstore => exact absurd (by rw [hnext.eq hstore]; decide) hop

/-- A program that stores a register just before the digits and draws the digit in it. -/
def neighbouring : Array UInt8 := #[0x60, 0xF7, 0xA0, 0x4F, 0xF0, 0x55, 0xF0, 0x29, 0xD1, 0x15]

theorem fits_neighbouring : FitsProgramSpace neighbouring := by decide

/-- The processor with the digit in its register. -/
def digitHolder : Processor :=
  { loaded neighbouring plainSetup with
    core := { Core.initial.setReg 0 0xF7 with pc := 0x202 }
    completed := 1 }

/-- The processor that is about to store it. -/
def neighbour : Processor :=
  { loaded neighbouring plainSetup with
    core := { Core.initial.setReg 0 0xF7 with pc := 0x204, index := 0x04F }
    completed := 2 }

theorem serve_neighbouring :
    (loaded neighbouring plainSetup).serve .step = digitHolder ∧
      digitHolder.serve .step = neighbour := by
  obtain ⟨i, hfirst⟩ := step_of_image .loadImmediate (p := loaded neighbouring plainSetup)
    fits_neighbouring rfl (k := 0) rfl (by decide) rfl (by decide) rfl rfl rfl
  obtain ⟨j, hsecond⟩ := step_of_image .loadIndex (p := digitHolder)
    fits_neighbouring rfl (k := 2) rfl (by decide) rfl (by decide) rfl rfl rfl
  rw [serve_step, serve_step, hfirst, hsecond]
  exact ⟨rfl, rfl⟩

theorem reachable_neighbour : Reachable plainSetup neighbour := by
  have hloaded : Reachable plainSetup (loaded neighbouring plainSetup) :=
    reachable_loaded fits_neighbouring
  obtain ⟨hserve, hserve'⟩ := serve_neighbouring
  rw [← hserve', ← hserve]
  exact (hloaded.serve .step).serve .step

theorem opcode_neighbour : neighbour.opcode = 0xF055 :=
  opcode_of_image fits_neighbouring rfl (k := 4) rfl (by decide)

theorem next_neighbour : neighbour.Next .storeRegisters := (next_iff_at rfl _).mpr
  (at_of_image fits_neighbouring rfl (k := 4) rfl (by decide) rfl (by decide))

/-- The register goes to the address before the first digit, -/
theorem stores_neighbour : neighbour.Stores 0x04F 0xF7 := by
  have hreg : neighbour.core.reg 0 = 0xF7 := rfl
  have hzero : (0 : Fin 16) ≤ neighbour.opcode.x := by
    rw [opcode_neighbour]
    decide
  exact hreg ▸ .register rfl next_neighbour hzero rfl (by decide)

/-- and nothing goes among the digits. -/
theorem sparesFont_neighbour : neighbour.SparesFont := by
  intro address value hs
  cases hs with
  | digit _ hstore => cases next_neighbour.eq hstore
  | @register _ _ r hr haddress =>
      have hzero : r.val ≤ 0 := by
        rw [opcode_neighbour] at hr
        exact hr
      have hindex : neighbour.core.index = 0x04F := rfl
      omega

theorem sparesFont_of_mem_stepped :
    ∀ q ∈ (loaded neighbouring plainSetup).stepped [.step, .step, .step], q.SparesFont := by
  have hfirst : (loaded neighbouring plainSetup).Next .loadImmediate := (next_iff_at rfl _).mpr
    (at_of_image fits_neighbouring rfl (k := 0) rfl (by decide) rfl (by decide))
  have hsecond : digitHolder.Next .loadIndex := (next_iff_at rfl _).mpr
    (at_of_image fits_neighbouring rfl (k := 2) rfl (by decide) rfl (by decide))
  obtain ⟨hserve, hserve'⟩ := serve_neighbouring
  rw [stepped, stepped, stepped, stepped, hserve, hserve']
  intro q hq
  simp only [asked, List.append_nil, List.singleton_append, List.mem_cons, List.not_mem_nil,
    or_false] at hq
  rcases hq with rfl | rfl | rfl
  · exact sparesFont_of_next hfirst (by decide)
  · exact sparesFont_of_next hsecond (by decide)
  · exact sparesFont_neighbour

/-- What is left when it has stored the register. -/
structure HasNeighbour (p : Processor) : Prop where
  reachable : Reachable plainSetup p
  running : p.halted = false
  only : StoresOnly neighbour 1 p

theorem HasNeighbour.byte (h : p.HasNeighbour) {address : Int} (hlt : 0x04F < address) :
    p.memory.byte address = (Memory.loaded neighbouring).byte address :=
  h.only.kept address (.inr hlt)

theorem HasNeighbour.next (h : p.HasNeighbour) : p.Next .loadGlyph ∧ p.digit = 7 := by
  have hpc : p.core.pc = 0x206 := by
    rw [h.only.frame]
    rfl
  obtain ⟨hopcode, hnext⟩ := h.reachable.next_of_bytes hpc (by decide)
    (by decide : Opcode.Encodes 0xF029 .loadGlyph) (by
      rw [h.byte (by decide), h.byte (by decide), Memory.byte_loaded fits_neighbouring,
        Memory.byte_loaded fits_neighbouring]
      decide)
  refine ⟨hnext, ?_⟩
  rw [digit, hopcode, h.only.frame]
  show ((Core.initial.setReg 0 0xF7).reg (Opcode.x 0xF029)).toNat % 16 = 7
  decide

/-- The digit is looked up, and the host ticks once before the next instruction. -/
def lookedUp (p : Processor) : Processor :=
  { p with
    core := ({ p.core with pc := p.core.pc + 2, index := 0x050 + 5 * p.digit } : Core).tick
    completed := p.completed + 1 }

theorem HasNeighbour.serveEach (h : p.HasNeighbour) :
    p.step.2.serveEach [.tick] = p.lookedUp := by
  obtain ⟨i, hstep⟩ := h.reachable.bounded.step_of_loadGlyph h.running h.next.1
  rw [hstep, serveEach_cons, serveEach_nil]
  rfl

/-- The next instruction draws the digit in the corner of a screen that is dark. -/
theorem HasNeighbour.draws (h : p.HasNeighbour) :
    p.lookedUp.opcode = 0xD115 ∧ p.lookedUp.Next .draw ∧ p.lookedUp.originX = 0 ∧
      p.lookedUp.originY = 0 ∧ ∀ u v : Int, p.lookedUp.screen.lit u v = false := by
  have hreach : Reachable plainSetup p.lookedUp :=
    h.serveEach ▸ (h.reachable.serve .step).serveEach [.tick]
  have hpc : p.lookedUp.core.pc = 0x208 := by
    show p.core.pc + 2 = 0x208
    rw [h.only.frame]
    rfl
  obtain ⟨hopcode, hnext⟩ := hreach.next_of_bytes hpc (by decide)
    (by decide : Opcode.Encodes 0xD115 .draw) (by
      show ((p.memory.byte 0x208).toNat * 256 + (p.memory.byte 0x209).toNat : Nat) = (_ : Opcode)
      rw [h.byte (by decide), h.byte (by decide), Memory.byte_loaded fits_neighbouring,
        Memory.byte_loaded fits_neighbouring]
      decide)
  have hreg : p.lookedUp.core.reg 1 = 0 := by
    show p.core.reg 1 = 0
    rw [h.only.frame]
    rfl
  have hscreen : p.lookedUp.screen = Screen.standard := by
    show p.screen = _
    rw [h.only.frame]
    rfl
  refine ⟨hopcode, hnext, ?_, ?_, ?_⟩
  · rw [originX, hopcode]
    exact congrArg (fun value : UInt8 => (value.toNat : Int)) hreg
  · rw [originY, hopcode]
    exact congrArg (fun value : UInt8 => (value.toNat : Int)) hreg
  · rw [hscreen]
    exact Screen.lit_blank 64 32 _ _

/-- The register is stored, and the next instructions are still those of the program. -/
theorem hasNeighbour_step : neighbour.step.2.HasNeighbour ∧
    neighbour.step.2.memory.byte 0x04F = 0xF7 := by
  have hroom : neighbour.core.index + neighbour.opcode.x ≤ 0xFFF := by
    rw [opcode_neighbour]
    decide
  obtain ⟨⟨i, hd⟩, honly, -⟩ :=
    reachable_neighbour.bounded.step_of_storeRegisters rfl next_neighbour hroom
  have hbyte := reachable_neighbour.bounded.byte_step_of_stores stores_neighbour
  have hn := running_behind hd
  have hserve := reachable_neighbour.serve .step
  rw [serve_step] at hserve
  rw [opcode_neighbour] at honly
  -- What the step leaves must not be computed.
  generalize neighbour.step.2 = p at hn hserve honly hbyte ⊢
  exact ⟨⟨hserve, hn, honly⟩, hbyte⟩

/--
The register is stored at the address before the first digit and the digits are as they were; the
second row of the one that is drawn is the cell in its fourth column.
-/
theorem digits_stay_drawable_neighbouring :
    ∃ p q, (loaded neighbouring plainSetup).serveEach [.step, .step, .step] = p ∧
      p.memory.byte 0x04F = 0xF7 ∧ p.memory.byte 0x050 = 0xF0 ∧
      p.step.2.serveEach [.tick] = q ∧
      q.step.2.screen.lit 3 1 = true ∧ q.step.2.screen.lit 2 1 = false := by
  have hstart : start neighbouring plainSetup = .ok (loaded neighbouring plainSetup) :=
    start_eq_ok_iff.mpr ⟨fits_neighbouring, rfl⟩
  have hserve : (loaded neighbouring plainSetup).serveEach [.step, .step, .step]
      = neighbour.step.2 := by
    rw [serveEach_cons, serve_neighbouring.1, serveEach_cons, serve_neighbouring.2,
      serveEach_cons, serveEach_nil, serve_step]
  obtain ⟨h, hbyte⟩ := hasNeighbour_step
  obtain ⟨hfont, hlook, -⟩ := digits_stay_drawable hstart sparesFont_of_mem_stepped hserve
  obtain ⟨-, -, hdraw⟩ := hlook h.running h.next.1
  obtain ⟨hopcode, hnext, hx, hy, hdark⟩ := h.draws
  obtain ⟨-, hdraws⟩ := hdraw [.tick] _ rfl h.serveEach hnext (by rw [hopcode]; decide)
  refine ⟨_, _, hserve, hbyte, hfont 0 (by decide), h.serveEach, ?_, ?_⟩
  · rw [hdraws.glyph, hdark, hx, hy, hopcode, h.next.2]
    decide
  · rw [hdraws.glyph, hdark, hx, hy, hopcode, h.next.2]
    decide

end Processor

end Chip8
