/-
What a screen remembers of its flips.

A cell shows one thing of all that was done to its screen: whether it was flipped an odd number
of times since the screen was last cleared.  Coordinates may have any sign and size; a flip
counts for the cell that its coordinates wrap to.  `lit_serve` says so of one request,
`lit_serveEach` of any number of them that do not clear the screen, and the history of a screen
is cut at its last clearing, behind which every cell is dark.

Two screens of one size that agree in every cell are the same (`eq_of_lit`), so the order of
flips between two clearings leaves no trace.  What is said of all cells, as their number or
their bytes in row order, is said of the coordinates of the grid by `index_of_lt`, which puts
each of them at a place of its own.
-/
import Chip8.Proofs.Sprite
import Mathlib.Data.Finset.Prod
import Mathlib.Data.Finset.Range
import Mathlib.Data.List.DropRight

namespace Chip8.Screen

/-! ### A history of requests -/

/-- What can be asked of a screen. -/
inductive Request where
  | flip (x y : Int)
  | look (x y : Int)
  | clear

/-- The screen after a request. -/
def serve (s : Screen) : Request → Screen
  | .flip x y => s.flip x y
  | .look _ _ => s
  | .clear => s.clear

/-- What a request tells of a cell: a flip tells what has become of it. -/
def answer (s : Screen) : Request → Option Bool
  | .flip x y => some ((s.flip x y).lit x y)
  | .look x y => some (s.lit x y)
  | .clear => none

/-- The screen after several requests. -/
def serveEach (s : Screen) (requests : List Request) : Screen := requests.foldl serve s

/-- Whether a request clears the screen. -/
def Request.clears : Request → Bool
  | .clear => true
  | .flip _ _ | .look _ _ => false

/-- Whether a request flips the cell to which a pair of coordinates wraps. -/
def Request.flips (width height x y : Int) : Request → Bool
  | .flip u v => u % width == x % width && v % height == y % height
  | .look _ _ | .clear => false

/-- The requests since the screen was last cleared, or all of them if it never was. -/
def sinceCleared (requests : List Request) : List Request :=
  requests.rtakeWhile fun request => !request.clears

/-- How often a cell was flipped since then. -/
def flipCount (width height x y : Int) (requests : List Request) : Nat :=
  (sinceCleared requests).countP (Request.flips width height x y)

variable {s t : Screen} {request : Request} {requests : List Request}

theorem serveEach_append (s : Screen) (requests more : List Request) :
    s.serveEach (requests ++ more) = (s.serveEach requests).serveEach more :=
  List.foldl_append

theorem size_serve (s : Screen) (request : Request) :
    (s.serve request).width = s.width ∧ (s.serve request).height = s.height := by
  cases request <;> exact ⟨rfl, rfl⟩

theorem size_serveEach (s : Screen) (requests : List Request) :
    (s.serveEach requests).width = s.width ∧ (s.serveEach requests).height = s.height := by
  induction requests generalizing s with
  | nil => exact ⟨rfl, rfl⟩
  | cons request rest ih =>
      obtain ⟨hw, hh⟩ := s.size_serve request
      obtain ⟨hw', hh'⟩ := ih (s.serve request)
      exact ⟨hw'.trans hw, hh'.trans hh⟩

/-! ### What a flip does to each cell -/

/-- Coordinates wrap to the same column if they have the same remainder. -/
theorem column_eq_column_iff (s : Screen) (x u : Int) :
    s.column x = s.column u ↔ u % s.width = x % s.width := by
  have hw := s.width_pos
  have hx := Int.emod_nonneg x (b := (s.width : Int)) (by omega)
  have hu := Int.emod_nonneg u (b := (s.width : Int)) (by omega)
  unfold column
  omega

theorem row_eq_row_iff (s : Screen) (y v : Int) :
    s.row y = s.row v ↔ v % s.height = y % s.height := by
  have hh := s.height_pos
  have hy := Int.emod_nonneg y (b := (s.height : Int)) (by omega)
  have hv := Int.emod_nonneg v (b := (s.height : Int)) (by omega)
  unfold row
  omega

/-- **A request changes the cells that it flips and no others**, unless it clears them all. -/
theorem lit_serve (s : Screen) (hkeep : request.clears = false) (x y : Int) :
    (s.serve request).lit x y = (s.lit x y ^^ request.flips s.width s.height x y) := by
  cases request with
  | flip u v =>
      have hsame : (s.index x y == s.index u v) = Request.flips s.width s.height x y (.flip u v) := by
        rw [Bool.eq_iff_iff]
        simp only [Request.flips, beq_iff_eq, Bool.and_eq_true, index_eq_index_iff,
          column_eq_column_iff, row_eq_row_iff]
      rw [serve, lit_flip, hsame]
  | look u v => simp [serve, Request.flips]
  | clear => simp [Request.clears] at hkeep

/-- **A cell changes if the number of its flips is odd**, as long as the screen is not cleared. -/
theorem lit_serveEach (s : Screen) (hkeep : ∀ request ∈ requests, request.clears = false)
    (x y : Int) :
    (s.serveEach requests).lit x y
      = (s.lit x y ^^ decide (requests.countP (Request.flips s.width s.height x y) % 2 = 1)) := by
  induction requests generalizing s with
  | nil => simp [serveEach]
  | cons request rest ih =>
      obtain ⟨hfirst, hrest⟩ := List.forall_mem_cons.mp hkeep
      obtain ⟨hw, hh⟩ := s.size_serve request
      have hstep := ih (s.serve request) hrest
      rw [hw, hh, lit_serve s hfirst] at hstep
      show ((s.serve request).serveEach rest).lit x y = _
      rw [hstep, List.countP_cons]
      by_cases hflips : request.flips s.width s.height x y = true
      · have hodd : ∀ n : Nat, decide ((n + 1) % 2 = 1) = !decide (n % 2 = 1) := by
          intro n
          rw [← decide_not]
          exact decide_eq_decide.mpr (by omega)
        rw [hflips, if_pos rfl, hodd, Bool.xor_assoc, Bool.true_xor]
      · rw [Bool.not_eq_true] at hflips
        simp [hflips]

/-! ### Behind the last clearing -/

theorem clears_iff : request.clears = true ↔ request = .clear := by
  cases request <;> simp [Request.clears]

/-- The requests before the last clearing end with it, unless there was none. -/
theorem eq_nil_or_concat_clear (requests : List Request) :
    requests.rdropWhile (fun request => !request.clears) = []
      ∨ ∃ earlier, requests.rdropWhile (fun request => !request.clears) = earlier ++ [.clear] := by
  have hlast := List.rdropWhile_last_not (fun request : Request => !request.clears) requests
  rcases List.eq_nil_or_concat' (requests.rdropWhile fun request => !request.clears)
    with hnil | ⟨earlier, last, hconcat⟩
  · exact .inl hnil
  · have hclears := hlast (by simp [hconcat])
    simp only [hconcat, List.getLast_append_singleton, Bool.not_eq_true', Bool.not_eq_false,
      clears_iff] at hclears
    exact .inr ⟨earlier, by rw [hconcat, hclears]⟩

/-- A screen that was just cleared is dark, and so is a dark one that never was. -/
theorem lit_cleared (hs : ∀ x y, s.lit x y = false) (requests : List Request) (x y : Int) :
    (s.serveEach (requests.rdropWhile fun request => !request.clears)).lit x y = false := by
  rcases eq_nil_or_concat_clear requests with hnil | ⟨earlier, hconcat⟩
  · rw [hnil]
    exact hs x y
  · rw [hconcat, serveEach_append]
    exact lit_clear _ x y

/-- **A cell is lit if it was flipped an odd number of times since the last clearing.** -/
theorem lit_iff_flipCount (hs : ∀ x y, s.lit x y = false) (requests : List Request) (x y : Int) :
    (s.serveEach requests).lit x y = true
      ↔ flipCount s.width s.height x y requests % 2 = 1 := by
  have hkeep : ∀ request ∈ sinceCleared requests, request.clears = false := by
    intro request hmem
    simpa using List.mem_rtakeWhile_imp hmem
  obtain ⟨hw, hh⟩ := s.size_serveEach (requests.rdropWhile fun request => !request.clears)
  have hsplit : requests.rdropWhile (fun request => !request.clears) ++ sinceCleared requests
      = requests := List.rdropWhile_append_rtakeWhile
  rw [flipCount, ← hsplit, serveEach_append, lit_serveEach _ hkeep, lit_cleared hs, hw, hh,
    Bool.false_xor, decide_eq_true_iff, hsplit]

/-! ### The cells in row order -/

/-- Each pair of coordinates in the grid has a place of its own. -/
theorem index_of_lt {x y : Nat} (hx : x < s.width) (hy : y < s.height) :
    s.index x y = y * s.width + x := by
  have hcolumn : s.column x = x := by
    rw [column, Int.emod_eq_of_lt (by omega) (by omega)]
    omega
  have hrow : s.row y = y := by
    rw [row, Int.emod_eq_of_lt (by omega) (by omega)]
    omega
  rw [index, hcolumn, hrow]

theorem lit_of_lt {x y : Nat} (hx : x < s.width) (hy : y < s.height) :
    s.lit x y = s.cells.getD (y * s.width + x) false := by
  rw [lit, index_of_lt hx hy]

/-- Where the cell at a place stands in the grid. -/
theorem place_in_grid {i : Nat} (hi : i < s.cells.size) :
    i % s.width < s.width ∧ i / s.width < s.height ∧ i / s.width * s.width + i % s.width = i := by
  rw [s.size_eq] at hi
  exact ⟨Nat.mod_lt _ s.width_pos, Nat.div_lt_of_lt_mul hi, Nat.div_add_mod' i s.width⟩

/-- **Two screens of one size that agree in every cell are the same.** -/
theorem eq_of_lit (hw : s.width = t.width) (hh : s.height = t.height)
    (hlit : ∀ x y, s.lit x y = t.lit x y) : s = t := by
  have hsize : s.cells.size = t.cells.size := by rw [s.size_eq, t.size_eq, hw, hh]
  have hcells : s.cells = t.cells := by
    refine Array.ext hsize ?_
    intro i hi hi'
    obtain ⟨hx, hy, hplace⟩ := s.place_in_grid hi
    have hcell := hlit (i % s.width : Nat) (i / s.width : Nat)
    rw [lit_of_lt hx hy, lit_of_lt (s := t) (by omega) (by omega), ← hw, hplace] at hcell
    simpa [Array.getD_eq_getD_getElem?, hi, hi'] using hcell
  cases s
  cases t
  simp_all

/-- The number of flips of a cell does not depend on their order. -/
theorem serveEach_perm (s : Screen) {flips flips' : List Request} (hperm : flips.Perm flips')
    (hkeep : ∀ request ∈ flips, request.clears = false) :
    s.serveEach flips = s.serveEach flips' := by
  obtain ⟨hw, hh⟩ := s.size_serveEach flips
  obtain ⟨hw', hh'⟩ := s.size_serveEach flips'
  have hkeep' : ∀ request ∈ flips', request.clears = false := by
    intro request hmem
    exact hkeep request (hperm.mem_iff.mpr hmem)
  refine eq_of_lit (hw.trans hw'.symm) (hh.trans hh'.symm) ?_
  intro x y
  rw [lit_serveEach s hkeep, lit_serveEach s hkeep', hperm.countP_eq]

/-- The cells as bytes in row order, a one for each lit cell. -/
def bytes (s : Screen) : List UInt8 := s.cells.toList.map fun lit => if lit then 1 else 0

theorem length_bytes (s : Screen) : s.bytes.length = s.width * s.height := by
  rw [bytes, List.length_map, Array.length_toList, s.size_eq]

theorem getElem?_bytes {x y : Nat} (hx : x < s.width) (hy : y < s.height) :
    s.bytes[y * s.width + x]? = some (if s.lit x y then 1 else 0) := by
  have hlt := s.index_lt x y
  rw [index_of_lt hx hy] at hlt
  rw [lit_of_lt hx hy, Array.getD_eq_getD_getElem?, Array.getElem?_eq_getElem hlt]
  simp [bytes, hlt]

theorem count_true_eq_card (cells : Array Bool) :
    cells.count true
      = ((Finset.range cells.size).filter fun i => cells.getD i false = true).card := by
  have hlist : cells.toList = (List.range cells.size).map fun i => cells.getD i false := by
    refine List.ext_getElem (by simp) ?_
    intro i hi hi'
    simp [Array.getD_eq_getD_getElem?, Array.length_toList ▸ hi]
  have hcard : ((Finset.range cells.size).filter fun i => cells.getD i false = true).card
      = ((List.range cells.size).filter fun i => cells.getD i false = true).length := rfl
  rw [hcard, ← List.countP_eq_length_filter, ← Array.count_toList, hlist, List.count,
    List.countP_map]
  refine List.countP_congr ?_
  intro i _
  simp

/-- **The lit cells are counted by their coordinates.** -/
theorem litCount_eq_card (s : Screen) :
    s.litCount = ((Finset.range s.width ×ˢ Finset.range s.height).filter
      fun c => s.lit c.1 c.2 = true).card := by
  rw [litCount, count_true_eq_card]
  refine Finset.card_bij' (fun i _ => (i % s.width, i / s.width))
    (fun c _ => c.2 * s.width + c.1) ?_ ?_ ?_ ?_
  · intro i hi
    rw [Finset.mem_filter, Finset.mem_range] at hi
    obtain ⟨hx, hy, hplace⟩ := s.place_in_grid hi.1
    rw [Finset.mem_filter, Finset.mem_product, Finset.mem_range, Finset.mem_range]
    refine ⟨⟨hx, hy⟩, ?_⟩
    rw [lit_of_lt hx hy, hplace]
    exact hi.2
  · intro c hc
    rw [Finset.mem_filter, Finset.mem_product, Finset.mem_range, Finset.mem_range] at hc
    obtain ⟨⟨hx, hy⟩, hlit⟩ := hc
    rw [lit_of_lt hx hy] at hlit
    have hlt := s.index_lt c.1 c.2
    rw [index_of_lt hx hy] at hlt
    exact Finset.mem_filter.mpr ⟨Finset.mem_range.mpr hlt, hlit⟩
  · intro i hi
    rw [Finset.mem_filter, Finset.mem_range] at hi
    exact (s.place_in_grid hi.1).2.2
  · intro c hc
    rw [Finset.mem_filter, Finset.mem_product, Finset.mem_range] at hc
    have hx := hc.1.1
    refine Prod.ext ?_ ?_
    · show (c.2 * s.width + c.1) % s.width = c.1
      rw [Nat.mul_comm, Nat.mul_add_mod, Nat.mod_eq_of_lt hx]
    · show (c.2 * s.width + c.1) / s.width = c.2
      rw [Nat.mul_comm, Nat.mul_add_div s.width_pos, Nat.div_eq_of_lt hx, Nat.add_zero]

/-! ### What a history leaves -/

/-- What a screen of some size shows after a history of requests. -/
structure Shows (width height : Int) (requests : List Request) (s : Screen) : Prop where
  lit_iff : ∀ x y, s.lit x y = true ↔ flipCount width height x y requests % 2 = 1
  /-- A flip tells what one would see of the cell afterwards, and that is the opposite of what
  was there. -/
  told : ∀ x y, s.answer (.flip x y) = (s.serve (.flip x y)).answer (.look x y) ∧
    s.answer (.flip x y) = some (!s.lit x y)
  length : (s.bytes.length : Int) = width * height
  bits : ∀ byte ∈ s.bytes, byte = 0 ∨ byte = 1
  /-- Row after row there is a one for each lit cell. -/
  byte : ∀ x y : Nat, x < width → y < height →
    s.bytes[y * width.toNat + x]? = some (if s.lit x y then 1 else 0)
  count : s.litCount = ((Finset.range width.toNat ×ˢ Finset.range height.toNat).filter
    fun c => s.lit c.1 c.2 = true).card

theorem lit_flip_self (s : Screen) (x y : Int) : (s.flip x y).lit x y = !s.lit x y := by
  simp [lit_flip]

theorem shows_serveEach (hs : ∀ x y, s.lit x y = false) (requests : List Request) :
    Shows s.width s.height requests (s.serveEach requests) := by
  obtain ⟨hw, hh⟩ := s.size_serveEach requests
  constructor
  case lit_iff => exact lit_iff_flipCount hs requests
  case told =>
    intro x y
    refine ⟨rfl, ?_⟩
    rw [answer, lit_flip_self]
  case length =>
    rw [length_bytes, hw, hh, Int.natCast_mul]
  case bits =>
    intro byte hmem
    obtain ⟨lit, -, rfl⟩ := List.mem_map.mp hmem
    cases lit
    · exact .inl rfl
    · exact .inr rfl
  case byte =>
    intro x y hx hy
    rw [Int.toNat_natCast, ← hw]
    exact getElem?_bytes (by omega) (by omega)
  case count =>
    rw [Int.toNat_natCast, Int.toNat_natCast, litCount_eq_card, hw, hh]

/--
**A cell shows the parity of its flips.**  Whatever is done to a screen of any size, at whatever
coordinates, a cell is lit exactly if it was flipped an odd number of times since the screen was
last cleared; the number of lit cells and their bytes tell the same.  So the order of flips that
no clearing parts makes no difference.
-/
theorem parity_of_flips {width height : Int} (hw : 0 < width) (hh : 0 < height) :
    ∃ s, ofSize? width height = some s ∧ ∀ requests,
      Shows width height requests (s.serveEach requests) ∧
      ∀ flips flips' : List Request, flips.Perm flips' → .clear ∉ flips → ∀ later,
        s.serveEach (requests ++ flips ++ later) = s.serveEach (requests ++ flips' ++ later) := by
  obtain ⟨w, rfl⟩ := Int.eq_ofNat_of_zero_le (Int.le_of_lt hw)
  obtain ⟨h, rfl⟩ := Int.eq_ofNat_of_zero_le (Int.le_of_lt hh)
  have hblank : ofSize? (w : Int) h = some (blank w h (by omega) (by omega)) :=
    dif_pos ⟨hw, hh⟩
  refine ⟨_, hblank, ?_⟩
  intro requests
  refine ⟨shows_serveEach (lit_blank w h _ _) requests, ?_⟩
  intro flips flips' hperm hclear later
  have hkeep : ∀ request ∈ flips, request.clears = false := by
    intro request hmem
    rw [← Bool.not_eq_true, clears_iff]
    rintro rfl
    exact hclear hmem
  rw [serveEach_append, serveEach_append, serveEach_append, serveEach_append,
    serveEach_perm _ hperm hkeep]

/-- On a screen of three by two the flips of a corner count wherever they wrap to it from. -/
theorem parity_of_flips_corner :
    ∃ s, ofSize? 3 2 = some s ∧
      (s.serveEach [.flip 2 1, .clear, .flip (-1) (-1), .look 0 0, .flip 2 99999999999999999999,
        .flip 5 3]).lit (-4) 7 = true ∧
      (s.serveEach [.flip 2 1, .clear, .flip (-1) (-1), .look 0 0, .flip 2 99999999999999999999]).lit
        2 1 = false ∧
      s.serveEach [.flip 0 0, .flip 1 1] = s.serveEach [.flip 1 1, .flip 0 0] := by
  obtain ⟨s, hs, hshows⟩ := parity_of_flips (by decide : (0 : Int) < 3) (by decide : (0 : Int) < 2)
  have hperm : [Request.flip 0 0, .flip 1 1].Perm [.flip 1 1, .flip 0 0] := List.Perm.swap _ _ []
  refine ⟨s, hs, ((hshows _).1.lit_iff _ _).mpr rfl, ?_, (hshows []).2 _ _ hperm (by simp) []⟩
  rw [← Bool.not_eq_true, (hshows _).1.lit_iff]
  decide

end Chip8.Screen
