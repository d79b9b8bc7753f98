/-
Memory as bytes at addresses.

`Memory.byte` reads memory as a function of the address, zero outside the range, and
every access is described by it: a read returns it, a write changes it in one place,
and a transfer does so up to the end of the range.

A transfer that begins at or above the range's first address can leave it only at the
far end.  So all that matters is how many addresses are left, `Memory.room`: that many
bytes are transferred, and if more were asked for, the address that fails is the first
one past the end, or where the transfer began if that lies even further.
-/
import Chip8.Memory

namespace Chip8.Memory

/-- The byte at an address, zero if the address lies outside. -/
def byte (m : Memory) (address : Int) : UInt8 :=
  match m.read address with
  | .ok value => value
  | .error _ => 0

/-- Two bytes as one number, the higher one first. -/
def word (m : Memory) (address : Int) : Nat :=
  (m.byte address).toNat * 256 + (m.byte (address + 1)).toNat

/-- The number of addresses of the range from one of them on. -/
def room (m : Memory) (address : Int) : Nat := (m.start + m.size - address).toNat

/-- The error of a transfer of so many bytes from an address on. -/
def overrun (m : Memory) (address : Int) (count : Nat) : Option AccessError :=
  if count ≤ m.room address then none
  else some (m.outside (max address (m.start + m.size)))

/-! ### Single bytes -/

theorem read_eq {m : Memory} {address : Int} (h : m.Contains address) :
    m.read address = .ok (m.byte address) := by
  obtain ⟨value, hv⟩ := read_of_contains h
  rw [byte, hv]

theorem start_write {m m' : Memory} {address : Int} {value : UInt8}
    (h : m.write address value = .ok m') : m'.start = m.start := by
  unfold write at h
  cases hl : m.locate address with
  | error e =>
      rw [hl] at h
      cases h
  | ok i =>
      rw [hl] at h
      cases h
      rfl

theorem byte_write {m m' : Memory} {address : Int} {value : UInt8}
    (h : m.write address value = .ok m') (other : Int) :
    m'.byte other = if other = address then value else m.byte other := by
  unfold byte
  rw [read_of_write h other]
  by_cases ho : other = address
  · rw [if_pos ho, if_pos ho]
  · rw [if_neg ho, if_neg ho]

/-- The two bytes of a word are read one after the other. -/
theorem readWord_eq {m : Memory} {address : Int} (h : m.Contains address)
    (h' : m.Contains (address + 1)) : m.readWord address = .ok (m.word address) := by
  unfold readWord
  rw [read_eq h, read_eq h']
  rfl

/-- A word that begins inside or above the range fails at the first byte that lies outside. -/
theorem readWord_of_le {m : Memory} {address : Int} (hs : (m.start : Int) ≤ address)
    (h : (m.start + m.size : Int) ≤ address + 1) :
    m.readWord address = .error (m.outside (max address (m.start + m.size))) := by
  unfold readWord
  by_cases hc : m.Contains address
  · have hend : address + 1 = m.start + m.size := by
      have := hc.2
      omega
    have hc' : ¬ m.Contains (address + 1) := fun hc' => by
      have := hc'.2
      omega
    rw [read_eq hc, read_of_not_contains hc', hend, Int.max_eq_right (by omega)]
    rfl
  · have hle : (m.start + m.size : Int) ≤ address := by
      refine Int.not_lt.mp fun hlt => hc ⟨hs, ?_⟩
      omega
    rw [read_of_not_contains hc, Int.max_eq_left hle]
    rfl

/-! ### Images -/

theorem byte_of_not_contains {m : Memory} {address : Int} (h : ¬ m.Contains address) :
    m.byte address = 0 := by
  rw [byte, read_of_not_contains h]

theorem byte_of_contains {m : Memory} {address : Int} (h : m.Contains address) :
    m.byte address = m.cells.getD (address - m.start).toNat 0 := by
  obtain ⟨i, hi, hval⟩ := locate_of_contains h
  have hpos : (address - m.start).toNat = i.val := by omega
  rw [byte, read, hi, hpos]
  show m.cells[i.val] = _
  rw [Array.getD_eq_getD_getElem?, Array.getElem?_eq_getElem i.isLt, Option.getD_some]

theorem byte_blank (start length : Nat) (address : Int) :
    (blank start length).byte address = 0 := by
  by_cases hc : (blank start length).Contains address
  · rw [byte_of_contains hc, Array.getD_eq_getD_getElem?]
    show (Array.replicate length 0)[_]?.getD 0 = 0
    rw [Array.getElem?_replicate]
    split
    · rfl
    · rfl
  · exact byte_of_not_contains hc

/-- An image that is laid over cells of the range leaves its size alone. -/
theorem size_overlay {m : Memory} {offset : Nat} {image : Array UInt8}
    (h : offset + image.size ≤ m.size) : (m.overlay offset image).size = m.size := by
  unfold size at h
  simp only [size, overlay, Array.size_append, Array.size_extract]
  omega

/-- The bytes of an image lie where it was laid, and all others are as before. -/
theorem byte_overlay {m : Memory} {offset : Nat} {image : Array UInt8}
    (h : offset + image.size ≤ m.size) (address : Int) :
    (m.overlay offset image).byte address
      = if m.start + offset ≤ address ∧ address < m.start + offset + image.size then
          image.getD (address - m.start - offset).toNat 0
        else m.byte address := by
  have hsize := size_overlay h
  unfold size at h
  by_cases hc : m.Contains address
  · have hc' : (m.overlay offset image).Contains address := by
      rw [Contains, hsize]
      exact hc
    have hlo := hc.1
    have hhi := hc.2
    unfold size at hhi
    obtain ⟨k, hk⟩ : ∃ k : Nat, address = m.start + k := ⟨(address - m.start).toNat, by omega⟩
    subst hk
    rw [byte_of_contains hc', byte_of_contains hc]
    show Array.getD (m.cells.extract 0 offset ++ image ++ m.cells.extract (offset + image.size) _)
        ((m.start + k : Int) - m.start).toNat 0 = _
    rw [show ((m.start + k : Int) - m.start).toNat = k by omega,
      show ((m.start + k : Int) - m.start - offset).toNat = k - offset by omega,
      Array.getD_eq_getD_getElem?, Array.getD_eq_getD_getElem?, Array.getD_eq_getD_getElem?]
    have hbefore : (m.cells.extract 0 offset).size = offset := by
      rw [Array.size_extract]
      omega
    have hto : (m.cells.extract 0 offset ++ image).size = offset + image.size := by
      rw [Array.size_append, hbefore]
    by_cases hlow : k < offset
    · rw [Array.getElem?_append_left (by omega), Array.getElem?_append_left (by omega),
        Array.getElem?_extract, if_pos (by omega), Nat.zero_add, if_neg (by omega)]
    · by_cases hin : k < offset + image.size
      · rw [Array.getElem?_append_left (by omega), Array.getElem?_append_right (by omega), hbefore,
          if_pos (by omega)]
      · rw [Array.getElem?_append_right (by omega), hto, Array.getElem?_extract,
          if_pos (by omega), if_neg (by omega), Nat.add_sub_cancel' (by omega)]
  · have hc' : ¬ (m.overlay offset image).Contains address := fun hc' => by
      rw [Contains, hsize] at hc'
      exact hc hc'
    rw [byte_of_not_contains hc', byte_of_not_contains hc, if_neg fun hin => hc ⟨by omega, ?_⟩]
    unfold size
    omega

/-! ### The room that is left -/

variable {m : Memory} {address : Int}

theorem contains_iff_room (h : (m.start : Int) ≤ address) :
    m.Contains address ↔ 0 < m.room address := by
  unfold Contains room
  omega

/-- Only the ends of the range decide what room there is, and what an overrun says. -/
theorem room_congr {m' : Memory} (hstart : m'.start = m.start) (hsize : m'.size = m.size) :
    m'.room address = m.room address := by
  rw [room, room, hstart, hsize]

theorem overrun_congr {m' : Memory} (hstart : m'.start = m.start) (hsize : m'.size = m.size)
    (count : Nat) : m'.overrun address count = m.overrun address count := by
  rw [overrun, overrun, room_congr hstart hsize, outside, outside, lastAddress, lastAddress,
    hstart, hsize]

theorem room_succ (h : 0 < m.room address) :
    m.room address = m.room (address + 1) + 1 := by
  unfold room at h ⊢
  omega

theorem overrun_zero : m.overrun address 0 = none := if_pos (Nat.zero_le _)

theorem overrun_succ (h : 0 < m.room address) (count : Nat) :
    m.overrun address (count + 1) = m.overrun (address + 1) count := by
  have hroom := room_succ h
  have hlt : address + 1 ≤ m.start + m.size := by
    unfold room at h
    omega
  unfold overrun
  rw [hroom, Int.max_eq_right hlt, Int.max_eq_right (by omega : address ≤ m.start + m.size)]
  by_cases hc : count ≤ m.room (address + 1)
  · rw [if_pos hc, if_pos (by omega)]
  · rw [if_neg hc, if_neg (by omega)]

/-- With no room left even the first byte of a transfer fails. -/
theorem overrun_of_no_room (h : m.room address = 0) (count : Nat) :
    m.overrun address (count + 1) = some (m.outside address) := by
  have hle : (m.start + m.size : Int) ≤ address := by
    unfold room at h
    omega
  unfold overrun
  rw [if_neg (by omega), Int.max_eq_left hle]

/-! ### Transfers -/

/-- A transfer to the outside reads the bytes that are left and fails past the last. -/
theorem readEach_eq (h : (m.start : Int) ≤ address) (count : Nat) :
    m.readEach address count
      = ((List.range (min count (m.room address))).map fun k : Nat => m.byte (address + k),
          m.overrun address count) := by
  induction count generalizing address with
  | zero =>
      rw [overrun_zero, Nat.zero_min]
      rfl
  | succ count ih =>
      rw [readEach]
      by_cases hroom : 0 < m.room address
      · rw [read_eq ((contains_iff_room h).mpr hroom), ih (by omega), overrun_succ hroom,
          room_succ hroom, Nat.succ_min_succ, List.range_succ_eq_map, List.map_cons, List.map_map]
        refine Prod.ext (List.cons_eq_cons.mpr ⟨by simp, List.map_congr_left fun k _ => ?_⟩) rfl
        show m.byte (address + 1 + k) = m.byte (address + (k + 1 : Nat))
        congr 1
        omega
      · have hzero : m.room address = 0 := by omega
        rw [read_of_not_contains fun hc => hroom ((contains_iff_room h).mp hc),
          overrun_of_no_room hzero, hzero, Nat.min_zero]
        rfl

theorem writeEach_error (h : (m.start : Int) ≤ address) (values : List UInt8) :
    (m.writeEach address values).2 = m.overrun address values.length := by
  induction values generalizing m address with
  | nil => exact overrun_zero.symm
  | cons value rest ih =>
      rw [writeEach, List.length_cons]
      by_cases hroom : 0 < m.room address
      · obtain ⟨m', hw⟩ := write_of_contains value ((contains_iff_room h).mpr hroom)
        have hstart := start_write hw
        rw [hw, overrun_succ hroom]
        show (m'.writeEach (address + 1) rest).2 = _
        rw [ih (by rw [hstart]; omega), overrun_congr hstart (size_write hw)]
      · rw [write_of_not_contains fun hc => hroom ((contains_iff_room h).mp hc),
          overrun_of_no_room (by omega)]

theorem start_writeEach (m : Memory) (address : Int) (values : List UInt8) :
    (m.writeEach address values).1.start = m.start := by
  induction values generalizing m address with
  | nil => rfl
  | cons value rest ih =>
      rw [writeEach]
      cases hw : m.write address value with
      | error e => rfl
      | ok m' => exact (ih m' (address + 1)).trans (start_write hw)

theorem size_writeEach (m : Memory) (address : Int) (values : List UInt8) :
    (m.writeEach address values).1.size = m.size := by
  induction values generalizing m address with
  | nil => rfl
  | cons value rest ih =>
      rw [writeEach]
      cases hw : m.write address value with
      | error e => rfl
      | ok m' => exact (ih m' (address + 1)).trans (size_write hw)

/-- A transfer into memory writes up to the end of the range and nowhere else. -/
theorem byte_writeEach (h : (m.start : Int) ≤ address) (values : List UInt8) (other : Int) :
    (m.writeEach address values).1.byte other
      = if address ≤ other ∧ other < address + min values.length (m.room address) then
          values.getD (other - address).toNat 0
        else m.byte other := by
  induction values generalizing m address with
  | nil =>
      rw [if_neg (by simp)]
      rfl
  | cons value rest ih =>
      rw [writeEach]
      by_cases hroom : 0 < m.room address
      · obtain ⟨m', hw⟩ := write_of_contains value ((contains_iff_room h).mpr hroom)
        have hstart := start_write hw
        rw [hw]
        show (m'.writeEach (address + 1) rest).1.byte other = _
        rw [ih (by rw [hstart]; omega), byte_write hw, room_congr hstart (size_write hw),
          room_succ hroom, List.length_cons,
          Nat.succ_min_succ]
        by_cases he : other = address
        · subst he
          rw [if_neg (by omega), if_pos rfl, if_pos (by push_cast; omega)]
          simp
        · rw [if_neg he]
          by_cases hin : address + 1 ≤ other ∧
              other < address + 1 + (min rest.length (m.room (address + 1)) : Nat)
          · rw [if_pos hin, if_pos (by push_cast; omega)]
            obtain ⟨k, hk⟩ : ∃ k : Nat, other = address + 1 + k :=
              ⟨(other - (address + 1)).toNat, by omega⟩
            subst hk
            rw [show (address + 1 + (k : Int) - (address + 1)).toNat = k by omega,
              show (address + 1 + (k : Int) - address).toNat = k + 1 by omega,
              List.getD_cons_succ]
          · rw [if_neg hin, if_neg (by push_cast; omega)]
      · rw [write_of_not_contains fun hc => hroom ((contains_iff_room h).mp hc),
          if_neg (by omega)]

end Chip8.Memory
