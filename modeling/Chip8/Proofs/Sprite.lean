/-
What drawing a sprite does to each cell.

Drawing flips one cell after the other and looks at each just before it is flipped.
That agrees with looking at the whole screen before and after, because no cell is
flipped twice: two offsets of a sprite lie less than eight columns and less than the
sprite's height apart, so on a screen at least that wide and high they wrap to
different cells, wherever the corner is.

The fold is described for any list of offsets that hit different cells
(`lit_foldl_strike`, `foldl_strike_flag`); that a sprite's offsets do so is
`nodup_struck`.
-/
import Chip8.Screen
import Mathlib.Data.List.Nodup

namespace Chip8.Screen

/-- Whether a sprite has a set bit at an offset from its upper left corner. -/
def spriteBit (sprite : List UInt8) (column row : Nat) : Bool :=
  decide (column < 8) && (sprite.getD row 0).toNat.testBit (7 - column)

/-- The cells that drawing a sprite flips, in the order in which it does. -/
def struck (s : Screen) (x y : Int) (sprite : List UInt8) : List Nat :=
  (spriteOffsets sprite).map fun offset => s.index (x + offset.1) (y + offset.2)

/-! ### The offsets of a sprite -/

theorem mem_spriteOffsets {sprite : List UInt8} {c r : Nat} :
    (c, r) ∈ spriteOffsets sprite ↔ spriteBit sprite c r = true := by
  simp only [spriteOffsets, List.mem_flatMap, List.mem_map, Prod.mk.injEq, Prod.exists,
    List.mk_mem_zipIdx_iff_getElem?, spriteColumns, List.mem_filter, List.mem_range, spriteBit,
    Bool.and_eq_true, decide_eq_true_eq, List.getD_eq_getElem?_getD]
  constructor
  · rintro ⟨bits, r', hbits, c', ⟨hc, hbit⟩, rfl, rfl⟩
    rw [hbits]
    exact ⟨hc, hbit⟩
  · rintro ⟨hc, hbit⟩
    cases hbits : sprite[r]? with
    | none =>
        rw [hbits] at hbit
        simp at hbit
    | some bits =>
        rw [hbits] at hbit
        exact ⟨bits, r, hbits, c, ⟨hc, hbit⟩, rfl, rfl⟩

theorem row_lt_of_spriteBit {sprite : List UInt8} {c r : Nat}
    (h : spriteBit sprite c r = true) : r < sprite.length := by
  refine Nat.lt_of_not_le fun hle => ?_
  simp [spriteBit, List.getD_eq_getElem?_getD, List.getElem?_eq_none hle] at h

theorem column_lt_of_spriteBit {sprite : List UInt8} {c r : Nat}
    (h : spriteBit sprite c r = true) : c < 8 := by
  simp only [spriteBit, Bool.and_eq_true, decide_eq_true_eq] at h
  exact h.1

theorem nodup_spriteOffsets (sprite : List UInt8) : (spriteOffsets sprite).Nodup := by
  refine List.nodup_flatMap.mpr ⟨?_, ?_⟩
  · rintro ⟨bits, r⟩ -
    refine List.Nodup.map (fun c c' h => (Prod.mk.injEq .. ▸ h).1) ?_
    exact List.nodup_range.filter _
  · -- The row numbers of different rows differ.
    have hrows : (sprite.zipIdx.map Prod.snd).Nodup := by
      rw [List.zipIdx_map_snd]
      exact List.nodup_range'
    refine (List.pairwise_map.mp hrows).imp fun {a b} hne => ?_
    show List.Disjoint _ _
    intro offset ha hb
    obtain ⟨c, -, rfl⟩ := List.mem_map.mp ha
    obtain ⟨c', -, hc'⟩ := List.mem_map.mp hb
    exact hne (Prod.mk.injEq .. ▸ hc').2.symm

/-! ### Coordinates that wrap to the same cell -/

variable {s : Screen}

/-- Which number less than the modulus takes one remainder to another. -/
theorem emod_eq_emod_add_iff {n c : Nat} (hc : c < n) (u x : Int) :
    (u % n).toNat = ((x + c) % n).toNat ↔ ((u - x) % n).toNat = c := by
  have hn : (n : Int) ≠ 0 := by omega
  have hu := Int.emod_nonneg u hn
  have hxc := Int.emod_nonneg (x + c) hn
  have hux := Int.emod_nonneg (u - x) hn
  have hshift := Int.emod_sub_cancel_right (m := u) (k := x + c) (n := n) x
  rw [show x + (c : Int) - x = c by omega,
    Int.emod_eq_of_lt (by omega : (0 : Int) ≤ c) (by omega)] at hshift
  omega

theorem column_eq_iff {u x : Int} {c : Nat} (hc : c < s.width) :
    s.column u = s.column (x + c) ↔ s.column (u - x) = c := emod_eq_emod_add_iff hc u x

theorem row_eq_iff {v y : Int} {r : Nat} (hr : r < s.height) :
    s.row v = s.row (y + r) ↔ s.row (v - y) = r := emod_eq_emod_add_iff hr v y

/-- Where a cell is seen does not depend on how its coordinates are written. -/
theorem lit_wrap (s : Screen) (u v : Int) : s.lit (u % s.width) (v % s.height) = s.lit u v := by
  simp only [lit, index, column, row, Int.emod_emod]

/-! ### Flipping different cells -/

theorem strike_mk (s : Screen) (flag : Bool) (x y : Int) :
    strike (s, flag) x y = (s.flip x y, flag || s.lit x y) := rfl

theorem width_foldl_strike (x y : Int) (offsets : List (Nat × Nat)) (state : Screen × Bool) :
    (offsets.foldl (fun state o => strike state (x + o.1) (y + o.2)) state).1.width
      = state.1.width := by
  induction offsets generalizing state with
  | nil => rfl
  | cons o rest ih => exact ih _

theorem height_foldl_strike (x y : Int) (offsets : List (Nat × Nat)) (state : Screen × Bool) :
    (offsets.foldl (fun state o => strike state (x + o.1) (y + o.2)) state).1.height
      = state.1.height := by
  induction offsets generalizing state with
  | nil => rfl
  | cons o rest ih => exact ih _

theorem lit_foldl_strike (x y : Int) (offsets : List (Nat × Nat)) (s : Screen) (flag : Bool)
    (h : (offsets.map fun o => s.index (x + o.1) (y + o.2)).Nodup) (u v : Int) :
    (offsets.foldl (fun state o => strike state (x + o.1) (y + o.2)) (s, flag)).1.lit u v
      = (s.lit u v ^^ decide (s.index u v ∈ offsets.map fun o => s.index (x + o.1) (y + o.2))) := by
  induction offsets generalizing s flag with
  | nil => simp
  | cons o rest ih =>
      rw [List.map_cons, List.nodup_cons] at h
      rw [List.foldl_cons, strike_mk, ih (s.flip _ _) _ h.2, lit_flip, List.map_cons]
      show ((s.lit u v ^^ (s.index u v == s.index (x + o.1) (y + o.2)))
          ^^ decide (s.index u v ∈ rest.map fun o => s.index (x + o.1) (y + o.2))) = _
      by_cases he : s.index u v = s.index (x + o.1) (y + o.2)
      · have hnot : s.index u v ∉ rest.map fun o => s.index (x + o.1) (y + o.2) := he ▸ h.1
        rw [decide_eq_false hnot, decide_eq_true (he ▸ List.mem_cons_self), beq_iff_eq.mpr he,
          Bool.xor_false]
      · rw [beq_eq_false_iff_ne.mpr he, Bool.xor_false]
        congr 1
        simp only [List.mem_cons, he, false_or]

/-- The flag tells of the cells that were lit to begin with. -/
theorem foldl_strike_flag (x y : Int) (offsets : List (Nat × Nat)) (s : Screen) (flag : Bool)
    (h : (offsets.map fun o => s.index (x + o.1) (y + o.2)).Nodup) :
    (offsets.foldl (fun state o => strike state (x + o.1) (y + o.2)) (s, flag)).2
      = (flag || offsets.any fun o => s.lit (x + o.1) (y + o.2)) := by
  induction offsets generalizing s flag with
  | nil => simp
  | cons o rest ih =>
      rw [List.map_cons, List.nodup_cons] at h
      rw [List.foldl_cons, strike_mk, ih (s.flip _ _) _ h.2, List.any_cons, Bool.or_assoc]
      congr 2
      rw [Bool.eq_iff_iff, List.any_eq_true, List.any_eq_true]
      refine exists_congr fun o' => and_congr_right fun ho' => ?_
      -- A later offset hits another cell, which the first flip left alone.
      have hne : s.index (x + o'.1) (y + o'.2) ≠ s.index (x + o.1) (y + o.2) := fun he =>
        h.1 (List.mem_map.mpr ⟨o', ho', he⟩)
      rw [lit_flip, beq_eq_false_iff_ne.mpr hne, Bool.xor_false]

/-! ### Drawing -/

@[simp] theorem width_draw (s : Screen) (x y : Int) (sprite : List UInt8) :
    (s.draw x y sprite).1.width = s.width := width_foldl_strike x y _ _

@[simp] theorem height_draw (s : Screen) (x y : Int) (sprite : List UInt8) :
    (s.draw x y sprite).1.height = s.height := height_foldl_strike x y _ _

/-- Drawing is flipping the cells under the sprite one after the other. -/
theorem cells_draw (s : Screen) (x y : Int) (sprite : List UInt8) :
    (s.draw x y sprite).1.cells
      = (s.struck x y sprite).foldl (fun cells i => cells.modify i not) s.cells := by
  have hfold : ∀ (offsets : List (Nat × Nat)) (s : Screen) (flag : Bool),
      (offsets.foldl (fun state o => strike state (x + o.1) (y + o.2)) (s, flag)).1.cells
        = (offsets.map fun o => s.index (x + o.1) (y + o.2)).foldl
            (fun cells i => cells.modify i not) s.cells := by
    intro offsets
    induction offsets with
    | nil => exact fun _ _ => rfl
    | cons o rest ih => exact fun s flag => ih (s.flip (x + o.1) (y + o.2)) _
  exact hfold _ s false

section

variable {sprite : List UInt8} (hw : 8 ≤ s.width) (hh : sprite.length ≤ s.height)

include hw hh

theorem mem_struck_iff (x y u v : Int) :
    s.index u v ∈ s.struck x y sprite
      ↔ spriteBit sprite (s.column (u - x)) (s.row (v - y)) = true := by
  rw [struck, List.mem_map]
  constructor
  · rintro ⟨⟨c, r⟩, hmem, he⟩
    have hbit := mem_spriteOffsets.mp hmem
    have hc : c < s.width := Nat.lt_of_lt_of_le (column_lt_of_spriteBit hbit) hw
    have hr : r < s.height := Nat.lt_of_lt_of_le (row_lt_of_spriteBit hbit) hh
    obtain ⟨hcol, hrow⟩ := (index_eq_index_iff s _ _ _ _).mp he.symm
    rw [(column_eq_iff hc).mp hcol, (row_eq_iff hr).mp hrow]
    exact hbit
  · intro hbit
    have hc : s.column (u - x) < s.width := column_lt s _
    have hr : s.row (v - y) < s.height := row_lt s _
    refine ⟨(s.column (u - x), s.row (v - y)), mem_spriteOffsets.mpr hbit, ?_⟩
    refine ((index_eq_index_iff s _ _ _ _).mpr ⟨?_, ?_⟩).symm
    · exact (column_eq_iff hc).mpr rfl
    · exact (row_eq_iff hr).mpr rfl

/-- **No cell is flipped twice**, wherever the corner is. -/
theorem nodup_struck (x y : Int) : (s.struck x y sprite).Nodup := by
  refine (List.nodup_map_iff_inj_on (nodup_spriteOffsets sprite)).mpr ?_
  rintro ⟨c, r⟩ hmem ⟨c', r'⟩ hmem' he
  have hbit := mem_spriteOffsets.mp hmem
  have hbit' := mem_spriteOffsets.mp hmem'
  have hc : c < s.width := Nat.lt_of_lt_of_le (column_lt_of_spriteBit hbit) hw
  have hc' : c' < s.width := Nat.lt_of_lt_of_le (column_lt_of_spriteBit hbit') hw
  have hr : r < s.height := Nat.lt_of_lt_of_le (row_lt_of_spriteBit hbit) hh
  have hr' : r' < s.height := Nat.lt_of_lt_of_le (row_lt_of_spriteBit hbit') hh
  obtain ⟨hcol, hrow⟩ := (index_eq_index_iff s _ _ _ _).mp he
  have hcol' := (column_eq_iff hc').mp hcol
  rw [(column_eq_iff hc).mp rfl] at hcol'
  have hrow' := (row_eq_iff hr').mp hrow
  rw [(row_eq_iff hr).mp rfl] at hrow'
  rw [hcol', hrow']

/-- A cell changes exactly if the sprite has a bit over it. -/
theorem lit_draw (x y u v : Int) :
    (s.draw x y sprite).1.lit u v
      = (s.lit u v ^^ spriteBit sprite (s.column (u - x)) (s.row (v - y))) := by
  rw [draw, lit_foldl_strike x y _ s false (nodup_struck hw hh x y)]
  congr 1
  rw [Bool.eq_iff_iff, decide_eq_true_eq]
  exact mem_struck_iff hw hh x y u v

/-- The flag tells exactly whether some cell was lit before and is dark after. -/
theorem draw_flag_iff (x y : Int) :
    (s.draw x y sprite).2 = true
      ↔ ∃ u v : Int, 0 ≤ u ∧ u < s.width ∧ 0 ≤ v ∧ v < s.height
          ∧ s.lit u v = true ∧ (s.draw x y sprite).1.lit u v = false := by
  rw [draw, foldl_strike_flag x y _ s false (nodup_struck hw hh x y), Bool.false_or,
    List.any_eq_true, ← draw]
  constructor
  · rintro ⟨⟨c, r⟩, hmem, hlit⟩
    have hwidth : (s.width : Int) ≠ 0 := by exact_mod_cast Nat.ne_of_gt s.width_pos
    have hheight : (s.height : Int) ≠ 0 := by exact_mod_cast Nat.ne_of_gt s.height_pos
    refine ⟨(x + c) % s.width, (y + r) % s.height, Int.emod_nonneg _ hwidth,
      Int.emod_lt_of_pos _ (by omega), Int.emod_nonneg _ hheight,
      Int.emod_lt_of_pos _ (by omega), ?_, ?_⟩
    · rw [lit_wrap]
      exact hlit
    · have hstruck : s.index (x + c) (y + r) ∈ s.struck x y sprite :=
        List.mem_map.mpr ⟨(c, r), hmem, rfl⟩
      have hwrap := lit_wrap (s.draw x y sprite).1 (x + c) (y + r)
      rw [width_draw, height_draw] at hwrap
      rw [hwrap, lit_draw hw hh, (mem_struck_iff hw hh x y _ _).mp hstruck, hlit]
      rfl
  · rintro ⟨u, v, -, -, -, -, hlit, hdark⟩
    rw [lit_draw hw hh, hlit, Bool.true_xor, Bool.not_eq_false'] at hdark
    obtain ⟨o, hmem, he⟩ := List.mem_map.mp ((mem_struck_iff hw hh x y u v).mpr hdark)
    refine ⟨o, hmem, ?_⟩
    rw [lit] at hlit ⊢
    rw [he]
    exact hlit

end

end Chip8.Screen
