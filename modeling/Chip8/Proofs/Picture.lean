/-
What a picture shows.

A picture can be painted without a look at coordinates: every cell puts down its colour as often
as the scale says, so a row of cells gives one line of pixels, and every line is put down as
often as the scale says once more.  `painted` is the bytes that this comes to.  The bytes of a
picture are each computed from the place where they stand; `bytes_ofScreen` says that they are the
painted ones.

What is painted consists of blocks of one length, which consist of blocks again: the lines over a
row, a line, the pixels over a cell, a pixel.  `getElem?_flatten_block` finds a byte in its block,
and used once for each of these layers it takes a place apart into coordinates and their
remainders by the scale (`getElem?_painted`).
-/
import Chip8.Picture
import Chip8.Proofs.Parity

namespace Chip8

/-! ### Colours as a host gives them -/

namespace Colour

/-- The shares of a colour as they are stored. -/
def bytes (c : Colour) : List UInt8 := [c.red, c.green, c.blue]

theorem length_bytes (c : Colour) : c.bytes.length = 3 := rfl

/-- The shares of a colour as numbers. -/
def shares (c : Colour) : List Int := c.bytes.map fun share => share.toNat

end Colour

/-- Whether what a host gives comes to the shares of a colour, each from 0 to 255. -/
structure GivesShares (channels : List Channel) (shares : List Int) : Prop where
  toInt : channels.mapM Channel.toInt = .ok shares
  length : shares.length = 3
  range : ∀ share ∈ shares, 0 ≤ share ∧ share ≤ 255

theorem toNat_ofInt_of_range {share : Int} (h : 0 ≤ share ∧ share ≤ 255) :
    ((UInt8.ofInt share).toNat : Int) = share := by
  show (((share % 256).toNat % 256 : Nat) : Int) = share
  omega

theorem forall₂_of_mapM {channels : List Channel} {shares : List Int}
    (h : channels.mapM Channel.toInt = .ok shares) :
    List.Forall₂ (fun channel share => channel.toInt = .ok share) channels shares := by
  induction channels generalizing shares with
  | nil =>
      cases h
      exact .nil
  | cons channel rest ih =>
      rw [List.mapM_cons] at h
      cases hfirst : channel.toInt with
      | error e =>
          rw [hfirst] at h
          cases h
      | ok first =>
          cases hrest : rest.mapM Channel.toInt with
          | error e =>
              rw [hfirst, hrest] at h
              cases h
          | ok others =>
              rw [hfirst, hrest] at h
              cases h
              exact .cons hfirst (ih hrest)

theorem share_of_range {channels : List Channel} {channel : Channel} {share : Int}
    (h : channel.toInt = .ok share) (hrange : 0 ≤ share ∧ share ≤ 255) :
    Colour.share channels channel = .ok (UInt8.ofInt share) := by
  rw [Colour.share, h]
  exact if_pos hrange

/-- The colour of such shares is made of them. -/
theorem GivesShares.exists_colour {channels : List Channel} {shares : List Int}
    (h : GivesShares channels shares) :
    ∃ c, Colour.ofChannels channels = .ok c ∧ c.shares = shares := by
  obtain ⟨hint, hlength, hrange⟩ := h
  obtain ⟨r, g, b, rfl⟩ := List.length_eq_three.mp hlength
  simp only [List.forall_mem_cons] at hrange
  obtain ⟨hr, hg, hb, -⟩ := hrange
  obtain _ | ⟨hred, _ | ⟨hgreen, _ | ⟨hblue, _ | _⟩⟩⟩ := forall₂_of_mapM hint
  refine ⟨⟨UInt8.ofInt r, UInt8.ofInt g, UInt8.ofInt b⟩, ?_, ?_⟩
  · rw [Colour.ofChannels, share_of_range hred hr, share_of_range hgreen hg,
      share_of_range hblue hb]
    rfl
  · simp [Colour.shares, Colour.bytes, toNat_ofInt_of_range, hr, hg, hb]

/-! ### Blocks of one length -/

/-- A place in a row of blocks of one length is a place in one of them. -/
theorem getElem?_flatten_block {α : Type} {size : Nat} {blocks : List (List α)}
    (hsize : ∀ block ∈ blocks, block.length = size) (i : Nat) {j : Nat} (hj : j < size) :
    blocks.flatten[i * size + j]? = blocks[i]?.bind fun block => block[j]? := by
  induction blocks generalizing i with
  | nil => rfl
  | cons block rest ih =>
      obtain ⟨hblock, hrest⟩ := List.forall_mem_cons.mp hsize
      rw [List.flatten_cons]
      cases i with
      | zero =>
          rw [Nat.zero_mul, Nat.zero_add, List.getElem?_append_left (by omega)]
          rfl
      | succ i =>
          have hplace : (i + 1) * size + j - block.length = i * size + j := by
            rw [Nat.succ_mul, hblock]
            omega
          have hbehind : block.length ≤ (i + 1) * size + j := by
            rw [Nat.succ_mul, hblock]
            omega
          rw [List.getElem?_append_right hbehind, hplace, ih hrest]
          rfl

theorem length_flatten_block {α : Type} {size : Nat} {blocks : List (List α)}
    (hsize : ∀ block ∈ blocks, block.length = size) :
    blocks.flatten.length = blocks.length * size := by
  rw [List.length_flatten, List.map_congr_left hsize, List.map_const', List.sum_replicate]
  simp

theorem length_flatten_replicate {α : Type} (count : Nat) (block : List α) :
    (List.replicate count block).flatten.length = count * block.length := by
  rw [length_flatten_block (fun b hb => congrArg List.length (List.eq_of_mem_replicate hb)),
    List.length_replicate]

/-- A repeated block is found in each of its copies. -/
theorem getElem?_flatten_replicate {α : Type} {count i j : Nat} {block : List α}
    (hi : i < count) (hj : j < block.length) :
    (List.replicate count block).flatten[i * block.length + j]? = block[j]? := by
  rw [getElem?_flatten_block (fun b hb => congrArg List.length (List.eq_of_mem_replicate hb)) i hj,
    List.getElem?_replicate, if_pos hi, Option.bind_some]

/-- What each entry of a list contributes, as often as the scale says. -/
def stretched {α β : Type} (scale : Nat) (f : α → List β) (l : List α) : List β :=
  l.flatMap fun a => (List.replicate scale (f a)).flatten

section Stretched

variable {α β : Type} {scale size : Nat} {f : α → List β} {l : List α}

theorem length_of_mem_repeated (hf : ∀ a ∈ l, (f a).length = size) :
    ∀ block ∈ l.map fun a => (List.replicate scale (f a)).flatten,
      block.length = scale * size := by
  intro block hblock
  obtain ⟨a, ha, rfl⟩ := List.mem_map.mp hblock
  rw [length_flatten_replicate, hf a ha]

theorem length_stretched (hf : ∀ a ∈ l, (f a).length = size) :
    (stretched scale f l).length = l.length * (scale * size) := by
  rw [stretched, List.flatMap_def, length_flatten_block (length_of_mem_repeated hf),
    List.length_map]

/-- **Behind a scale stands what the entry at the quotient contributes.** -/
theorem getElem?_stretched (hf : ∀ a ∈ l, (f a).length = size) (hscale : 0 < scale) (x : Nat)
    {k : Nat} (hk : k < size) :
    (stretched scale f l)[x * size + k]? = l[x / scale]?.bind fun a => (f a)[k]? := by
  have hcopy : x % scale < scale := Nat.mod_lt x hscale
  have hplace : x * size + k = x / scale * (scale * size) + (x % scale * size + k) := by
    rw [← Nat.mul_assoc, ← Nat.add_assoc, ← Nat.add_mul, Nat.div_add_mod']
  have hblock : x % scale * size + k < scale * size := by
    have := Nat.mul_le_mul_right size (Nat.succ_le_of_lt hcopy)
    rw [Nat.succ_mul] at this
    omega
  rw [hplace, stretched, List.flatMap_def,
    getElem?_flatten_block (length_of_mem_repeated hf) _ hblock, List.getElem?_map]
  cases ha : l[x / scale]? with
  | none => rfl
  | some a =>
      have hlength := hf a (List.mem_of_getElem? ha)
      rw [Option.map_some, Option.bind_some, Option.bind_some, ← hlength]
      exact getElem?_flatten_replicate hcopy (by omega)

end Stretched

/-! ### The cells of a screen row by row -/

namespace Screen

theorem length_rows (s : Screen) : s.rows.length = s.height := by
  rw [rows, List.length_map, List.length_range]

theorem getElem?_rows (s : Screen) {y : Nat} (hy : y < s.height) :
    s.rows[y]? = some (s.rowCells y) := by
  rw [rows, List.getElem?_map, List.getElem?_range hy, Option.map_some]

/-- A row ends where the next one begins, and that is still on the screen. -/
theorem row_end_le (s : Screen) {y : Nat} (hy : y < s.height) :
    (y + 1) * s.width ≤ s.cells.size := by
  rw [s.size_eq, Nat.mul_comm s.width]
  exact Nat.mul_le_mul_right _ hy

theorem length_rowCells (s : Screen) {y : Nat} (hy : y < s.height) :
    (s.rowCells y).length = s.width := by
  have hend := s.row_end_le hy
  rw [rowCells, Array.length_toList, Array.size_extract, Nat.min_eq_left hend, Nat.succ_mul]
  omega

theorem getElem?_rowCells (s : Screen) {x y : Nat} (hx : x < s.width) (hy : y < s.height) :
    (s.rowCells y)[x]? = some (s.lit x y) := by
  have hlt := s.index_lt x y
  have hend := s.row_end_le hy
  have hwithin : x < min ((y + 1) * s.width) s.cells.size - y * s.width := by
    rw [Nat.min_eq_left hend, Nat.succ_mul]
    omega
  rw [index_of_lt hx hy] at hlt
  rw [lit_of_lt hx hy, rowCells, Array.getElem?_toList, Array.getElem?_extract_of_lt hwithin,
    Array.getD_eq_getD_getElem?, Array.getElem?_eq_getElem hlt, Option.getD_some]

end Screen

namespace Picture

variable {palette : Palette} {scale : Nat} {s : Screen}

/-! ### Painting -/

/-- A line of pixels over a row of cells: each cell as wide as the scale says. -/
def lineBytes (palette : Palette) (scale : Nat) (cells : List Bool) : List UInt8 :=
  stretched scale (fun lit => (palette.colour lit).bytes) cells

/-- All lines from the top: each row of cells as high as the scale says. -/
def painted (palette : Palette) (scale : Nat) (s : Screen) : List UInt8 :=
  stretched scale (lineBytes palette scale) s.rows

theorem length_lineBytes {cells : List Bool} (hcells : cells ∈ s.rows) :
    (lineBytes palette scale cells).length = s.width * scale * 3 := by
  obtain ⟨y, hy, rfl⟩ := List.mem_map.mp hcells
  rw [lineBytes, length_stretched (fun lit _ => (palette.colour lit).length_bytes),
    s.length_rowCells (List.mem_range.mp hy), Nat.mul_assoc]

theorem length_painted (palette : Palette) (scale : Nat) (s : Screen) :
    (painted palette scale s).length = s.width * scale * (s.height * scale) * 3 := by
  rw [painted, length_stretched (fun _ => length_lineBytes), s.length_rows]
  ac_rfl

/-- **Every pixel is painted in the colour of the cell that it lies over.** -/
theorem getElem?_painted (palette : Palette) {x y k : Nat} (hx : x < s.width * scale)
    (hy : y < s.height * scale) (hk : k < 3) :
    (painted palette scale s)[(y * (s.width * scale) + x) * 3 + k]?
      = (palette.colour (s.lit (x / scale : Nat) (y / scale : Nat))).bytes[k]? := by
  have hscale : 0 < scale := by
    refine Nat.pos_of_ne_zero ?_
    rintro rfl
    exact Nat.not_lt_zero x hx
  have hcolumn : x / scale < s.width := Nat.div_lt_of_lt_mul (by rwa [Nat.mul_comm])
  have hrow : y / scale < s.height := Nat.div_lt_of_lt_mul (by rwa [Nat.mul_comm])
  have hplace : (y * (s.width * scale) + x) * 3 + k
      = y * (s.width * scale * 3) + (x * 3 + k) := by
    rw [Nat.add_mul, Nat.mul_assoc y, Nat.add_assoc]
  rw [hplace, painted, getElem?_stretched (fun _ => length_lineBytes) hscale y (by omega),
    s.getElem?_rows hrow, Option.bind_some, lineBytes,
    getElem?_stretched (fun lit _ => (palette.colour lit).length_bytes) hscale x hk,
    s.getElem?_rowCells hcolumn hrow, Option.bind_some]

/-- A share that is looked up by its place is the one stored there. -/
theorem getElem?_bytes_colour (c : Colour) {k : Nat} (hk : k < 3) :
    c.bytes[k]? = some (share c k) := by
  match k, hk with
  | 0, _ => rfl
  | 1, _ => rfl
  | 2, _ => rfl

/-- **A picture holds the bytes that are painted.** -/
theorem bytes_ofScreen (palette : Palette) (scale : Nat) (s : Screen) :
    (ofScreen palette scale s).bytes.toList = painted palette scale s := by
  refine List.ext_getElem? fun i => ?_
  rw [Array.getElem?_toList, ofScreen, Array.getElem?_ofFn]
  split
  · rename_i hi
    have hpixel : i / 3 < s.width * scale * (s.height * scale) := Nat.div_lt_of_lt_mul (by omega)
    have hwidth : 0 < s.width * scale := Nat.pos_of_mul_pos_right (Nat.zero_lt_of_lt hpixel)
    have hx : i / 3 % (s.width * scale) < s.width * scale := Nat.mod_lt _ hwidth
    have hy : i / 3 / (s.width * scale) < s.height * scale := Nat.div_lt_of_lt_mul hpixel
    have hplace : (i / 3 / (s.width * scale) * (s.width * scale) + i / 3 % (s.width * scale)) * 3
        + i % 3 = i := by
      rw [Nat.div_add_mod', Nat.div_add_mod']
    have hbyte := getElem?_painted palette hx hy (Nat.mod_lt i (by decide))
    rw [hplace, getElem?_bytes_colour _ (Nat.mod_lt i (by decide))] at hbyte
    exact hbyte.symm
  · rename_i hi
    have hend : (painted palette scale s).length ≤ i := by
      rw [length_painted]
      omega
    exact (List.getElem?_eq_none hend).symm

/-! ### Looking at pixels -/

/-- A number that is not negative counts from the front. -/
theorem byte?_natCast (p : Picture) (i : Nat) : p.byte? i = p.bytes[i]? := by
  by_cases hi : i < p.bytes.size
  · have hplace : place? p.bytes.size i = some ⟨i, hi⟩ := dif_pos ⟨by omega, by omega⟩
    rw [byte?, hplace, Option.map_some, Array.getElem?_eq_getElem hi]
    rfl
  · have hplace : place? p.bytes.size i = none := by
      rw [place?, dif_neg (by omega), dif_neg (by omega)]
    rw [byte?, hplace, Option.map_none, Array.getElem?_eq_none (by omega)]

/-- A pixel has the colour whose bytes stand at its place. -/
theorem pixel?_of_bytes {p : Picture} {x y : Nat} {c : Colour}
    (h : ∀ k < 3, p.bytes[(y * p.width + x) * 3 + k]? = c.bytes[k]?) : p.pixel? x y = some c := by
  have hoffset : ((y : Int) * p.width + x) * 3 = ((y * p.width + x) * 3 : Nat) := by
    rw [Int.natCast_mul, Int.natCast_add, Int.natCast_mul]
    rfl
  have hred : p.byte? ((y * p.width + x) * 3 : Nat) = some c.red :=
    (byte?_natCast p _).trans (h 0 (by decide))
  have hgreen : p.byte? (((y * p.width + x) * 3 : Nat) + 1) = some c.green :=
    (byte?_natCast p _).trans (h 1 (by decide))
  have hblue : p.byte? (((y * p.width + x) * 3 : Nat) + 2) = some c.blue :=
    (byte?_natCast p _).trans (h 2 (by decide))
  rw [pixel?, hoffset, hred, hgreen, hblue]
  rfl

theorem pixel?_ofScreen {x y : Nat} (hx : x < s.width * scale) (hy : y < s.height * scale) :
    (ofScreen palette scale s).pixel? x y
      = some (palette.colour (s.lit (x / scale : Nat) (y / scale : Nat))) := by
  refine pixel?_of_bytes fun k hk => ?_
  rw [← Array.getElem?_toList, bytes_ofScreen]
  exact getElem?_painted palette hx hy hk

/--
**A picture shows every cell as a square of its colour.**  Two colours with shares from 0 to 255
make a palette, and with it a screen of any size and content is rendered at any scale from one
on: the picture is wider and higher than the screen by the scale, its bytes are those that are
painted cell by cell and line by line, and a pixel has the colour of the cell that its
coordinates name when they are divided by the scale.
-/
theorem pixels_show_cells (s : Screen) {background foreground : List Channel}
    {dark light : List Int} (hdark : GivesShares background dark)
    (hlight : GivesShares foreground light) {scale : Int} (hscale : 1 ≤ scale) :
    ∃ palette picture, Palette.ofColours [background, foreground] = .ok palette ∧
      render palette scale s = .ok picture ∧
      (picture.width : Int) = s.width * scale ∧ (picture.height : Int) = s.height * scale ∧
      (picture.bytes.size : Int) = 3 * s.width * s.height * scale * scale ∧
      picture.bytes.toList = painted palette scale.toNat s ∧
      ∀ x y : Int, 0 ≤ x → x < s.width * scale → 0 ≤ y → y < s.height * scale →
        (picture.pixel? x y).map Colour.shares
          = some (if s.lit (x / scale) (y / scale) then light else dark) := by
  obtain ⟨b, hb, hbshares⟩ := hdark.exists_colour
  obtain ⟨f, hf, hfshares⟩ := hlight.exists_colour
  obtain ⟨n, rfl⟩ := Int.eq_ofNat_of_zero_le (Int.le_trans (by decide) hscale)
  have hpalette : Palette.ofColours [background, foreground] = .ok ⟨b, f⟩ := by
    rw [Palette.ofColours, hb, hf]
    rfl
  have hrender : render ⟨b, f⟩ n s = .ok (ofScreen ⟨b, f⟩ n s) := if_neg (by omega)
  refine ⟨⟨b, f⟩, _, hpalette, hrender, Int.natCast_mul _ _, Int.natCast_mul _ _, ?_,
    bytes_ofScreen _ _ _, ?_⟩
  · rw [← Array.length_toList, bytes_ofScreen, length_painted]
    simp only [Int.natCast_mul]
    ac_rfl
  · intro x y hx hx' hy hy'
    obtain ⟨x, rfl⟩ := Int.eq_ofNat_of_zero_le hx
    obtain ⟨y, rfl⟩ := Int.eq_ofNat_of_zero_le hy
    rw [pixel?_ofScreen (by exact_mod_cast hx') (by exact_mod_cast hy'), Option.map_some,
      Int.natCast_ediv, Int.natCast_ediv, ← hbshares, ← hfshares, Palette.colour]
    split
    · rfl
    · rfl

/-- A screen of three by two with a lit cell at the end of its first row, three times as large. -/
theorem pixels_show_cells_corner :
    ∃ screen palette picture, Screen.ofSize? 3 2 = some screen ∧
      Palette.ofColours [[.whole 1, .whole 2, .whole 3], [.whole 250, .whole 0, .whole 255]]
        = .ok palette ∧
      render palette 3 (screen.flip 2 0) = .ok picture ∧
      picture.width = 9 ∧ picture.height = 6 ∧ picture.bytes.size = 162 ∧
      (picture.pixel? 6 2).map Colour.shares = some [250, 0, 255] ∧
      (picture.pixel? 6 3).map Colour.shares = some [1, 2, 3] ∧
      (picture.pixel? 5 2).map Colour.shares = some [1, 2, 3] := by
  have hdark : GivesShares [.whole 1, .whole 2, .whole 3] [1, 2, 3] := ⟨rfl, rfl, by decide⟩
  have hlight : GivesShares [.whole 250, .whole 0, .whole 255] [250, 0, 255] :=
    ⟨rfl, rfl, by decide⟩
  obtain ⟨palette, picture, hpalette, hrender, hwidth, hheight, hsize, -, hpixel⟩ :=
    pixels_show_cells ((Screen.blank 3 2 (by decide) (by decide)).flip 2 0) hdark hlight
      (by decide : (1 : Int) ≤ 3)
  refine ⟨_, palette, picture, rfl, hpalette, hrender, ?_, ?_, ?_, ?_, ?_, ?_⟩
  · exact_mod_cast hwidth
  · exact_mod_cast hheight
  · exact_mod_cast hsize
  · exact hpixel 6 2 (by decide) (by decide) (by decide) (by decide)
  · exact hpixel 6 3 (by decide) (by decide) (by decide) (by decide)
  · exact hpixel 5 2 (by decide) (by decide) (by decide) (by decide)

end Picture

end Chip8
