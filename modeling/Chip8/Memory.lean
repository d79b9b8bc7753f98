/-
A flat stretch of bytes with its own address range.

Every access is checked: an address outside the range is a reportable error and
leaves the bytes as they were, it never reads or writes another part of the
machine.  Addresses are integers because a program can count past either end.

Two kinds of transfer move several bytes.  An image is placed as a whole or not at
all.  A transfer of registers goes byte by byte and stops at the first address
outside, keeping what it did before; `writeEach` and `readEach` return that part
together with the error.

An access succeeds exactly at the addresses of the range (`read_of_contains`,
`read_of_not_contains`), and a write changes what is read at its own address and nowhere
else (`read_of_write`).
-/
import Chip8.Text.Hex

namespace Chip8

/-- An access to an address outside a memory range. -/
structure AccessError where
  /-- The address that was asked for. -/
  address : Int
  /-- The first address of the range. -/
  first : Int
  /-- The last address of the range. -/
  last : Int

/-- Addresses have a mark and at least four digits. -/
def AccessError.style : HexStyle := ⟨6, false, true⟩

/-- The complaint names the address and the range. -/
def AccessError.message (e : AccessError) : String :=
  "address " ++ style.write e.address ++ " outside memory " ++ style.write e.first ++ "-"
    ++ style.write e.last

/-- Bytes at consecutive addresses, beginning with `start`. -/
structure Memory where
  start : Nat
  cells : Array UInt8

namespace Memory

/-- A cleared memory. -/
def blank (start length : Nat) : Memory := ⟨start, Array.replicate length 0⟩

/-- The complaint about a range that holds no address. -/
def badRegion : String := "memory region must have a positive length and non-negative start"

/-- A cleared memory over a range that is given by integers, if that is a range. -/
def ofRange? (start length : Int) : Option Memory :=
  if start < 0 ∨ length ≤ 0 then none else some (blank start.toNat length.toNat)

/-- The number of bytes. -/
def size (m : Memory) : Nat := m.cells.size

/-- The last address. -/
def lastAddress (m : Memory) : Int := m.start + m.size - 1

/-- Whether an address belongs to the range. -/
def Contains (m : Memory) (address : Int) : Prop :=
  (m.start : Int) ≤ address ∧ address < m.start + m.size

instance (m : Memory) (address : Int) : Decidable (m.Contains address) :=
  inferInstanceAs (Decidable (_ ∧ _))

/-- The error of an access at an address outside. -/
def outside (m : Memory) (address : Int) : AccessError := ⟨address, m.start, m.lastAddress⟩

/-- The cell behind an address. -/
def locate (m : Memory) (address : Int) : Except AccessError (Fin m.cells.size) :=
  if h : m.Contains address then
    .ok ⟨(address - m.start).toNat, by
      have := h.1
      have := h.2
      simp only [size] at this
      omega⟩
  else
    .error (m.outside address)

/-- The byte at an address. -/
def read (m : Memory) (address : Int) : Except AccessError UInt8 :=
  (m.locate address).map fun i => m.cells[i]

/-- The memory after one byte was stored. -/
def write (m : Memory) (address : Int) (value : UInt8) : Except AccessError Memory :=
  (m.locate address).map fun i => { m with cells := m.cells.set i.val value i.isLt }

/-- Two bytes as one number, the higher one first, which is how opcodes are stored. -/
def readWord (m : Memory) (address : Int) : Except AccessError Nat := do
  let high ← m.read address
  let low ← m.read (address + 1)
  return high.toNat * 256 + low.toNat

/-- The memory with an image laid over its cells from an offset on. -/
def overlay (m : Memory) (offset : Nat) (image : Array UInt8) : Memory :=
  { m with
    cells := m.cells.extract 0 offset ++ image
      ++ m.cells.extract (offset + image.size) m.cells.size }

/--
The memory after an image was placed from an address on.  Both ends of the image
are checked, the lower one first, before anything is stored; an empty image fits
everywhere.
-/
def place (m : Memory) (address : Int) (image : Array UInt8) : Except AccessError Memory :=
  if image.isEmpty then .ok m
  else if ¬ m.Contains address then .error (m.outside address)
  else
    let final := address + image.size - 1
    if ¬ m.Contains final then .error (m.outside final)
    else .ok (m.overlay (address - m.start).toNat image)

/-! ### Transfers that stop at the first address outside -/

/-- Stores bytes one after the other until one falls outside. -/
def writeEach (m : Memory) (address : Int) : List UInt8 → Memory × Option AccessError
  | [] => (m, none)
  | value :: rest =>
    match m.write address value with
    | .error e => (m, some e)
    | .ok m => m.writeEach (address + 1) rest

/-- Reads so many bytes one after the other until one falls outside. -/
def readEach (m : Memory) (address : Int) : Nat → List UInt8 × Option AccessError
  | 0 => ([], none)
  | count + 1 =>
    match m.read address with
    | .error e => ([], some e)
    | .ok value =>
      let (values, error) := m.readEach (address + 1) count
      (value :: values, error)

/-! ### Sizes do not change -/

@[simp] theorem size_blank (start length : Nat) : (blank start length).size = length := by
  simp [blank, size]

theorem size_write {m m' : Memory} {address : Int} {value : UInt8}
    (h : m.write address value = .ok m') : m'.size = m.size := by
  unfold write at h
  cases hl : m.locate address with
  | error e =>
    rw [hl] at h
    cases h
  | ok i =>
    rw [hl] at h
    cases h
    simp [size]

theorem size_place {m m' : Memory} {address : Int} {image : Array UInt8}
    (h : m.place address image = .ok m') : m'.size = m.size := by
  unfold place at h
  split at h
  · cases h; rfl
  · split at h
    · cases h
    · rename_i hfirst
      dsimp only at h
      split at h
      · cases h
      · rename_i hlast
        cases h
        simp only [Decidable.not_not, Contains, size] at hfirst hlast
        simp only [size, overlay, Array.size_append, Array.size_extract]
        omega

/-! ### An access succeeds exactly inside the range -/

theorem locate_of_contains {m : Memory} {address : Int} (h : m.Contains address) :
    ∃ i, m.locate address = .ok i ∧ (i.val : Int) = address - m.start := by
  refine ⟨_, dif_pos h, ?_⟩
  have := h.1
  simp only
  omega

theorem locate_of_not_contains {m : Memory} {address : Int} (h : ¬ m.Contains address) :
    m.locate address = .error (m.outside address) := dif_neg h

theorem contains_of_locate {m : Memory} {address : Int} {i : Fin m.cells.size}
    (h : m.locate address = .ok i) : m.Contains address ∧ (i.val : Int) = address - m.start := by
  by_cases hc : m.Contains address
  · obtain ⟨j, hj, hval⟩ := locate_of_contains hc
    rw [hj] at h
    cases h
    exact ⟨hc, hval⟩
  · rw [locate_of_not_contains hc] at h
    cases h

theorem read_of_not_contains {m : Memory} {address : Int} (h : ¬ m.Contains address) :
    m.read address = .error (m.outside address) := by
  rw [read, locate_of_not_contains h]
  rfl

theorem read_of_contains {m : Memory} {address : Int} (h : m.Contains address) :
    ∃ value, m.read address = .ok value := by
  obtain ⟨i, hi, -⟩ := locate_of_contains h
  exact ⟨m.cells[i], by rw [read, hi]; rfl⟩

theorem write_of_not_contains {m : Memory} {address : Int} {value : UInt8}
    (h : ¬ m.Contains address) : m.write address value = .error (m.outside address) := by
  rw [write, locate_of_not_contains h]
  rfl

theorem write_of_contains {m : Memory} {address : Int} (value : UInt8) (h : m.Contains address) :
    ∃ m', m.write address value = .ok m' := by
  obtain ⟨i, hi, -⟩ := locate_of_contains h
  exact ⟨_, by rw [write, hi]; rfl⟩

/-! ### A write changes one cell -/

/-- What a write leaves: the address it wrote to and nothing else has changed. -/
theorem read_of_write {m m' : Memory} {address : Int} {value : UInt8}
    (h : m.write address value = .ok m') (other : Int) :
    m'.read other = if other = address then .ok value else m.read other := by
  unfold write at h
  cases hl : m.locate address with
  | error e =>
    rw [hl] at h
    cases h
  | ok i =>
    rw [hl] at h
    cases h
    obtain ⟨hc, hi⟩ := contains_of_locate hl
    have hsize : ∀ a, (⟨m.start, m.cells.set i.val value i.isLt⟩ : Memory).Contains a
        ↔ m.Contains a := by
      intro a
      simp [Contains, size]
    by_cases ho : m.Contains other
    · obtain ⟨j, hj, hjv⟩ := locate_of_contains ho
      obtain ⟨k, hk, hkv⟩ := locate_of_contains ((hsize other).mpr ho)
      have hkj : k.val = j.val := by
        have : (k.val : Int) = j.val := by rw [hkv, hjv]
        omega
      simp only [read, hj, hk, Except.map, Fin.getElem_fin, hkj, Array.getElem_set]
      by_cases he : other = address
      · have : i.val = j.val := by omega
        simp [he, this]
      · have : i.val ≠ j.val := by omega
        simp [he, this]
    · rw [read_of_not_contains ho, read_of_not_contains (fun hc' => ho ((hsize other).mp hc'))]
      have : other ≠ address := fun he => ho (he ▸ hc)
      rw [if_neg this]
      simp [outside, lastAddress, size]

end Memory

end Chip8
