/-
What the drawing instruction does.

The sprite lies in memory from the index on, so drawing reads as many rows as lie in
memory and flips the cells under their bits.  `lit_drawn` says so for any index; it is
all that is needed both of a drawing that is completed and of one that memory cuts
short.

The registers that name the corner may be the flag register itself.  They are read
before the flag is set, so this makes no difference.
-/
import Chip8.Proofs.Reachable

namespace Chip8.Processor

/-- The column of the upper left corner of a drawing instruction's sprite. -/
def originX (p : Processor) : Int := (p.core.reg p.opcode.x).toNat

/-- The row of that corner. -/
def originY (p : Processor) : Int := (p.core.reg p.opcode.y).toNat

/-- Whether the byte so many rows behind the index has its bit for a column set. -/
def spriteAt (p : Processor) (column row : Int) : Bool :=
  decide (column < 8) && (p.memory.byte (p.core.index + row)).toNat.testBit (7 - column).toNat

/-- The cells that a drawing instruction flips, in the order in which it does. -/
def flipped (p : Processor) : List Nat :=
  p.screen.struck p.originX p.originY (p.memory.readEach p.core.index p.opcode.n).1

variable {p : Processor}

/-! ### The rows that lie in memory -/

theorem Bounded.length_readEach_le (h : p.Bounded) (height : Nat) :
    (p.memory.readEach p.core.index height).1.length ≤ height := by
  rw [Memory.readEach_eq h.start_le, List.length_map, List.length_range]
  exact Nat.min_le_left _ _

/-- The bits of a sprite are those in memory, as far as memory goes. -/
theorem Bounded.spriteBit_readEach (h : p.Bounded) (height column row : Nat) :
    Screen.spriteBit (p.memory.readEach p.core.index height).1 column row
      = (decide (row < height ∧ p.core.index + row ≤ 0xFFF) && p.spriteAt column row) := by
  rw [Screen.spriteBit, spriteAt, h.getD_readEach]
  by_cases hrow : row < height ∧ p.core.index + row ≤ 0xFFF
  · rw [if_pos hrow, decide_eq_true hrow, Bool.true_and,
      show (7 - (column : Int)).toNat = 7 - column by omega,
      show decide ((column : Int) < 8) = decide (column < 8) from decide_eq_decide.mpr (by omega)]
  · rw [if_neg hrow, decide_eq_false hrow, Bool.false_and]
    show (decide (column < 8) && Nat.testBit 0 (7 - column)) = false
    rw [Nat.zero_testBit, Bool.and_false]

/-- What drawing does to a cell, if the sprite is no higher than the screen. -/
theorem Bounded.lit_drawn (h : p.Bounded) (x y : UInt8) {height : Nat} (hh : height ≤ 32)
    (u v : Int) :
    (p.drawn x y height).1.lit u v
      = (p.screen.lit u v ^^
          (decide ((v - y.toNat) % 32 < height ∧ p.core.index + (v - y.toNat) % 32 ≤ 0xFFF)
            && p.spriteAt ((u - x.toNat) % 64) ((v - y.toNat) % 32))) := by
  have hrows := h.length_readEach_le height
  have hcolumn : ((p.screen.column (u - x.toNat) : Nat) : Int) = (u - x.toNat) % 64 := by
    rw [Screen.column, h.width]
    exact Int.toNat_of_nonneg (Int.emod_nonneg _ (by decide))
  have hrow : ((p.screen.row (v - y.toNat) : Nat) : Int) = (v - y.toNat) % 32 := by
    rw [Screen.row, h.height]
    exact Int.toNat_of_nonneg (Int.emod_nonneg _ (by decide))
  rw [drawn, Screen.lit_draw (by rw [h.width]; decide) (by rw [h.height]; omega),
    h.spriteBit_readEach, hcolumn, ← hrow]
  simp only [Int.ofNat_lt]

/-! ### A step that draws -/

/-- The screen after a drawing instruction, as far as memory goes, and the collision. -/
def drawing (p : Processor) : Screen × Bool :=
  p.drawn (p.core.reg p.opcode.x) (p.core.reg p.opcode.y) p.opcode.n

/-- What drawing leaves of a processor. -/
structure Draws (p q : Processor) : Prop where
  /-- A cell is flipped if the sprite has a bit over it, and else stays as it is. -/
  lit : ∀ u v : Int, q.screen.lit u v
    = (p.screen.lit u v ^^
        (decide ((v - p.originY) % 32 < p.opcode.n)
          && p.spriteAt ((u - p.originX) % 64) ((v - p.originY) % 32)))
  /-- The cells are flipped one after the other, -/
  cells : q.screen.cells = p.flipped.foldl (fun cells i => cells.modify i not) p.screen.cells
  /-- and none of them twice. -/
  once : p.flipped.Nodup
  /-- The flag is one if some cell was lit before and is dark after, -/
  flag_iff : q.core.reg 15 = 1 ↔
    ∃ u v : Int, 0 ≤ u ∧ u < 64 ∧ 0 ≤ v ∧ v < 32
      ∧ p.screen.lit u v = true ∧ q.screen.lit u v = false
  /-- and else zero. -/
  flag : q.core.reg 15 = 1 ∨ q.core.reg 15 = 0
  width : q.screen.width = 64
  height : q.screen.height = 32
  /-- Nothing else changes, apart from the count of instructions. -/
  frame : q = { p with
    core := { p.core.setReg 15 (q.core.reg 15) with pc := p.core.pc + 2 }
    screen := q.screen
    redraw := true
    completed := p.completed + 1 }

/-- The processor behind a drawing instruction whose rows all lie in memory. -/
def afterDraw (p : Processor) : Processor :=
  { p with
    core := ({ p.core with pc := p.core.pc + 2 } : Core).setFlag p.drawing.2
    screen := p.drawing.1
    redraw := true
    completed := p.completed + 1 }

theorem Bounded.step_of_draw (h : p.Bounded) (hn : p.halted = false) (hd : p.Next .draw)
    (hi : p.opcode.n = 0 ∨ p.core.index + p.opcode.n - 1 ≤ 0xFFF) :
    ∃ i, p.step = (.completed ⟨p.opcode, i⟩, p.afterDraw) := by
  obtain ⟨hf, i, hl, hr⟩ := hd
  have hread : (p.memory.readEach p.core.index p.opcode.n).2 = none := by
    refine Option.eq_none_iff_forall_ne_some.mpr fun e he => ?_
    have := h.readEach_error_iff.mp he
    omega
  refine ⟨i, step_of_steps hn ?_⟩
  rw [afterDraw, ← h.core_passed hf]
  exact .completed hf hl hr (drawSprite_of_ok hread)

theorem reg_afterDraw (p : Processor) :
    p.afterDraw.core.reg 15 = if p.drawing.2 then 1 else 0 := by
  show (Core.setFlag _ _).reg 15 = _
  rw [Core.setFlag, Core.reg_setReg, Core.flagRegister, if_pos rfl]

theorem Bounded.draws (h : p.Bounded)
    (hi : p.opcode.n = 0 ∨ p.core.index + p.opcode.n - 1 ≤ 0xFFF) : Draws p p.afterDraw := by
  have hwide : 8 ≤ p.screen.width := by
    rw [h.width]
    decide
  have hn : p.opcode.n < 16 := (p.opcode.nibble 0).isLt
  have hhigh : (p.memory.readEach p.core.index p.opcode.n).1.length ≤ p.screen.height := by
    have hrows := h.length_readEach_le p.opcode.n
    rw [h.height]
    omega
  have hflag := reg_afterDraw p
  constructor
  case lit =>
    intro u v
    refine (h.lit_drawn _ _ (by omega) u v).trans ?_
    -- All rows of the sprite lie in memory.
    have hrow : (v - p.originY) % 32 < p.opcode.n ∧ p.core.index + (v - p.originY) % 32 ≤ 0xFFF
        ↔ (v - p.originY) % 32 < p.opcode.n := by
      omega
    rw [← originX, ← originY]
    simp only [hrow]
  case cells => exact Screen.cells_draw _ _ _ _
  case once => exact Screen.nodup_struck hwide hhigh _ _
  case flag_iff =>
    have hone : ∀ b : Bool, (if b then (1 : UInt8) else 0) = 1 ↔ b = true := by decide
    have hdark := Screen.draw_flag_iff hwide hhigh p.originX p.originY
    rw [h.width, h.height] at hdark
    rw [hflag]
    exact (hone _).trans hdark
  case flag =>
    rw [hflag]
    split
    · exact .inl rfl
    · exact .inr rfl
  case width => exact (Screen.width_draw _ _ _ _).trans h.width
  case height => exact (Screen.height_draw _ _ _ _).trans h.height
  case frame =>
    rw [hflag]
    rfl

variable {setup : Setup}

/--
**Drawing is one exact flip of the sprite's cells**, wrapped at the edges of the screen,
and the flag tells of the whole sprite whether it made a cell go dark.  Under the standard table
the opcodes that draw are those that begin with `D`.
-/
theorem step_draw (h : Reachable setup p) (hn : p.halted = false) (hd : p.Next .draw)
    (hi : p.opcode.n = 0 ∨ p.core.index + p.opcode.n - 1 ≤ 0xFFF) :
    (∃ i, p.step.1 = .completed ⟨p.opcode, i⟩) ∧ Draws p p.step.2 ∧
    (setup.table = .standard → ∀ q, Reachable setup q →
      (q.Next .draw ↔ q.Fetches ∧ q.opcode.primary = 0xD)) := by
  obtain ⟨i, hstep⟩ := h.bounded.step_of_draw hn hd hi
  rw [hstep]
  exact ⟨⟨i, rfl⟩, h.bounded.draws hi, fun ht q hq => hq.next_iff ht .draw⟩

/-- A program that draws a row of eight cells over the right edge of the screen. -/
def edgeSprite : Array UInt8 := #[0x60, 0x3E, 0xA2, 0x06, 0xD0, 0x01, 0xFF]

theorem fits_edgeSprite : FitsProgramSpace edgeSprite := by decide

/-- The processor that is about to draw it. -/
def edgeDrawer : Processor :=
  { loaded edgeSprite plainSetup with
    core := { Core.initial.setReg 0 0x3E with pc := 0x204, index := 0x206 }
    completed := 2 }

theorem reachable_edgeDrawer : Reachable plainSetup edgeDrawer := by
  have hload : Reachable plainSetup { loaded edgeSprite plainSetup with
      core := { Core.initial.setReg 0 0x3E with pc := 0x202 }
      completed := 1 } :=
    Reachable.step_of_image fits_edgeSprite rfl (k := 0) rfl (by decide) rfl
      (reachable_loaded fits_edgeSprite) rfl rfl rfl rfl rfl
  exact Reachable.step_of_image fits_edgeSprite rfl (k := 2) rfl (by decide) rfl hload rfl rfl rfl
    rfl rfl

/-- The row goes on at the left edge, for six cells and no more. -/
theorem step_draw_edgeDrawer :
    edgeDrawer.Next .draw ∧ edgeDrawer.step.2.screen.lit 5 30 = true ∧
      edgeDrawer.step.2.screen.lit 6 30 = false := by
  have hopcode : edgeDrawer.opcode = 0xD001 :=
    opcode_of_image fits_edgeSprite rfl (k := 4) rfl (by decide)
  have hnext : edgeDrawer.Next .draw := (next_iff_at rfl _).mpr
    (at_of_image fits_edgeSprite rfl (k := 4) rfl (by decide) rfl (by decide))
  have hx : edgeDrawer.originX = 62 := by
    rw [originX, hopcode]
    rfl
  have hy : edgeDrawer.originY = 62 := by
    rw [originY, hopcode]
    rfl
  have hbyte : edgeDrawer.memory.byte (edgeDrawer.core.index + (30 - 62) % 32) = 0xFF :=
    Memory.byte_loaded fits_edgeSprite 0x206
  have hdark : ∀ u v : Int, edgeDrawer.screen.lit u v = false := Screen.lit_blank 64 32 _ _
  obtain ⟨-, hdraws, -⟩ := step_draw reachable_edgeDrawer rfl hnext (.inr (by rw [hopcode]; decide))
  refine ⟨hnext, ?_, ?_⟩
  · rw [hdraws.lit, hdark, hx, hy, hopcode, spriteAt, hbyte]
    decide
  · rw [hdraws.lit, hdark, hx, hy, hopcode, spriteAt, hbyte]
    decide

end Chip8.Processor
