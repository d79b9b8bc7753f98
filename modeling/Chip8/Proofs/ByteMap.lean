/-
Memory as a map from addresses to bytes.

What a memory is meant to be can be said without an array: a map that has a byte for each
address of its range and for no other.  `ByteMap` tells how such a map serves loads, stores and
images in terms of all the addresses that they touch, and `Memory.toByteMap` reads a memory as
one.  Reading a memory as a map and serving a request can trade places
(`toByteMap_serve`, `answer_toByteMap`), so whatever is asked of a memory, in whatever order,
the map would have answered the same.

An image is laid over the cells after a look at its two ends alone.  That is enough because a
range has no gaps: what begins and ends in it lies in it (`Contains.between`).
-/
import Chip8.Proofs.Memory

namespace Chip8

namespace Memory

/-- What can be asked of a memory; addresses and values are any integers. -/
inductive Request where
  | load (address : Int)
  | store (address value : Int)
  /-- Two bytes as one number, the higher one first. -/
  | loadWord (address : Int)
  | place (address : Int) (image : Array UInt8)

/-- What comes back. -/
inductive Answer where
  | done
  | number (value : Nat)
  | refused (error : AccessError)

/-- All addresses that a request touches, in order. -/
def Request.touched : Request → List Int
  | .load address | .store address _ => [address]
  | .loadWord address => [address, address + 1]
  | .place address image => (List.range image.size).map fun j : Nat => address + j

/-- An answer that may be an error instead. -/
def told : Except AccessError Answer → Answer
  | .ok answer => answer
  | .error e => .refused e

/-- The answer to a request. -/
def answer (m : Memory) : Request → Answer
  | .load address => told ((m.read address).map fun value => .number value.toNat)
  | .store address value => told ((m.write address (UInt8.ofInt value)).map fun _ => .done)
  | .loadWord address => told ((m.readWord address).map .number)
  | .place address image => told ((m.place address image).map fun _ => .done)

/-- The memory after a request; one that is refused changes nothing. -/
def serve (m : Memory) : Request → Memory
  | .load _ | .loadWord _ => m
  | .store address value => (m.write address (UInt8.ofInt value)).toOption.getD m
  | .place address image => (m.place address image).toOption.getD m

/-- The memory after several requests. -/
def serveEach (m : Memory) (requests : List Request) : Memory := requests.foldl serve m

/-- The answers to several requests. -/
def answers (m : Memory) : List Request → List Answer
  | [] => []
  | request :: rest => m.answer request :: (m.serve request).answers rest

end Memory

/-- A map from the addresses of a range to bytes. -/
structure ByteMap where
  first : Int
  last : Int
  byte? : Int → Option UInt8

namespace ByteMap

open Memory (Request Answer)

/-- The map in which all bytes are zero. -/
def zeros (first last : Int) : ByteMap :=
  ⟨first, last, fun address => if first ≤ address ∧ address ≤ last then some 0 else none⟩

/-- The number at an address. -/
def value (f : ByteMap) (address : Int) : Nat := ((f.byte? address).getD 0).toNat

/--
The address that is complained about if a request touches one without a byte.  It is the first
of these, but of an image only the two ends are ever named.
-/
def complaint? (f : ByteMap) (request : Request) : Option Int :=
  (request.touched.find? fun address => (f.byte? address).isNone).map fun missing =>
    match request with
    | .place address image => if missing = address then address else address + image.size - 1
    | _ => missing

/-- The answer to a request. -/
def answer (f : ByteMap) (request : Request) : Answer :=
  match f.complaint? request, request with
  | some address, _ => .refused ⟨address, f.first, f.last⟩
  | none, .load address => .number (f.value address)
  | none, .loadWord address => .number (256 * f.value address + f.value (address + 1))
  | none, .store _ _ | none, .place _ _ => .done

/-- The map after a request. -/
def serve (f : ByteMap) (request : Request) : ByteMap :=
  match f.complaint? request, request with
  | none, .store address value =>
    { f with byte? := fun other =>
        if other = address then some (UInt8.ofNat (value % 256).toNat) else f.byte? other }
  | none, .place address image =>
    { f with byte? := fun other =>
        if address ≤ other ∧ other < address + image.size then image[(other - address).toNat]?
        else f.byte? other }
  | _, _ => f

/-- The map after several requests. -/
def serveEach (f : ByteMap) (requests : List Request) : ByteMap := requests.foldl serve f

/-- The answers to several requests. -/
def answers (f : ByteMap) : List Request → List Answer
  | [] => []
  | request :: rest => f.answer request :: (f.serve request).answers rest

end ByteMap

namespace Memory

variable {m : Memory} {address final : Int} {image : Array UInt8}

/-- A memory read as a map. -/
def toByteMap (m : Memory) : ByteMap :=
  ⟨m.start, m.lastAddress, fun address => (m.read address).toOption⟩

/-! ### Which addresses have a byte -/

theorem byte?_of_contains (h : m.Contains address) :
    m.toByteMap.byte? address = some (m.byte address) := by
  simp [toByteMap, read_eq h, Except.toOption]

theorem byte?_of_not_contains (h : ¬ m.Contains address) : m.toByteMap.byte? address = none := by
  simp [toByteMap, read_of_not_contains h, Except.toOption]

@[simp] theorem byte?_eq_none_iff : m.toByteMap.byte? address = none ↔ ¬ m.Contains address := by
  by_cases h : m.Contains address
  · simp [byte?_of_contains h, h]
  · simp [byte?_of_not_contains h, h]

theorem value_of_contains (h : m.Contains address) :
    m.toByteMap.value address = (m.byte address).toNat := by
  simp [ByteMap.value, byte?_of_contains h]

/-- A range has no gaps. -/
theorem Contains.between (h : m.Contains address) (h' : m.Contains final) {other : Int}
    (hle : address ≤ other) (hle' : other ≤ final) : m.Contains other := by
  unfold Contains at h h' ⊢
  omega

/-! ### What is complained about -/

/-- A request whose addresses all have a byte is served. -/
theorem complaint?_eq_none {request : Request}
    (h : ∀ address ∈ request.touched, m.Contains address) :
    m.toByteMap.complaint? request = none := by
  simpa [ByteMap.complaint?] using h

theorem complaint?_load (h : ¬ m.Contains address) :
    m.toByteMap.complaint? (.load address) = some address := by
  simp [ByteMap.complaint?, Request.touched, h]

theorem complaint?_store (h : ¬ m.Contains address) (value : Int) :
    m.toByteMap.complaint? (.store address value) = some address := by
  simp [ByteMap.complaint?, Request.touched, h]

theorem complaint?_loadWord_first (h : ¬ m.Contains address) :
    m.toByteMap.complaint? (.loadWord address) = some address := by
  simp [ByteMap.complaint?, Request.touched, h]

theorem complaint?_loadWord_second (h : m.Contains address) (h' : ¬ m.Contains (address + 1)) :
    m.toByteMap.complaint? (.loadWord address) = some (address + 1) := by
  simp [ByteMap.complaint?, Request.touched, h, h']

theorem touched_place_of_pos (address : Int) (h : 0 < image.size) :
    ∃ rest, (Request.place address image).touched = address :: rest := by
  obtain ⟨count, hcount⟩ : ∃ count, image.size = count + 1 := ⟨image.size - 1, by omega⟩
  simp [Request.touched, hcount, List.range_succ_eq_map]

theorem complaint?_place_first (hsize : 0 < image.size) (h : ¬ m.Contains address) :
    m.toByteMap.complaint? (.place address image) = some address := by
  obtain ⟨rest, hrest⟩ := touched_place_of_pos address hsize
  simp [ByteMap.complaint?, hrest, h]

/-- Whatever byte of an image lies outside, its last address is named. -/
theorem complaint?_place_last (hsize : 0 < image.size) (h : m.Contains address)
    (h' : ¬ m.Contains (address + image.size - 1)) :
    m.toByteMap.complaint? (.place address image) = some (address + image.size - 1) := by
  cases hfind : (Request.place address image).touched.find?
      fun address => (m.toByteMap.byte? address).isNone with
  | none =>
      have hlast : address + (image.size - 1 : Nat) ∈ (Request.place address image).touched := by
        simp only [Request.touched, List.mem_map, List.mem_range]
        exact ⟨image.size - 1, by omega, rfl⟩
      have hcontains := List.find?_eq_none.mp hfind _ hlast
      rw [Option.isNone_iff_eq_none, byte?_eq_none_iff, Decidable.not_not] at hcontains
      refine absurd hcontains fun hc => h' ?_
      rwa [show address + image.size - 1 = address + (image.size - 1 : Nat) by omega]
  | some missing =>
      have hmissing := List.find?_some hfind
      rw [Option.isNone_iff_eq_none, byte?_eq_none_iff] at hmissing
      have hne : missing ≠ address := fun he => hmissing (he ▸ h)
      simp [ByteMap.complaint?, hfind, hne]

/-! ### Serving a request -/

theorem place_of_empty (h : image.size = 0) : m.place address image = .ok m := by
  simp [place, Array.size_eq_zero_iff.mp h]

theorem place_of_not_contains (hsize : 0 < image.size) (h : ¬ m.Contains address) :
    m.place address image = .error (m.outside address) := by
  simp [place, Array.isEmpty, Nat.ne_of_gt hsize, h]

theorem place_of_not_contains_last (hsize : 0 < image.size) (h : m.Contains address)
    (h' : ¬ m.Contains (address + image.size - 1)) :
    m.place address image = .error (m.outside (address + image.size - 1)) := by
  simp [place, Array.isEmpty, Nat.ne_of_gt hsize, h, h']

theorem place_of_contains (hsize : 0 < image.size) (h : m.Contains address)
    (h' : m.Contains (address + image.size - 1)) :
    m.place address image = .ok (m.overlay (address - m.start).toNat image) := by
  simp [place, Array.isEmpty, Nat.ne_of_gt hsize, h, h']

/-- A memory with the same range is read as the map with other bytes. -/
theorem toByteMap_eq {m' : Memory} {byte? : Int → Option UInt8} (hstart : m'.start = m.start)
    (hsize : m'.size = m.size)
    (hin : ∀ other, m.Contains other → byte? other = some (m'.byte other))
    (hout : ∀ other, ¬ m.Contains other → byte? other = none) :
    m'.toByteMap = { m.toByteMap with byte? } := by
  have hcontains : ∀ other, m'.Contains other ↔ m.Contains other := by
    intro other
    rw [Contains, Contains, hstart, hsize]
  have hbyte : m'.toByteMap.byte? = byte? := by
    funext other
    by_cases h : m.Contains other
    · rw [hin other h, byte?_of_contains ((hcontains other).mpr h)]
    · rw [hout other h, byte?_of_not_contains fun hc => h ((hcontains other).mp hc)]
  rw [← hbyte]
  simp [toByteMap, hstart, lastAddress, hsize]

/-- Whether a memory serves a request as its map does. -/
structure Agrees (m : Memory) (request : Request) : Prop where
  answer : m.toByteMap.answer request = m.answer request
  serve : m.toByteMap.serve request = (m.serve request).toByteMap

/-- They agree on a request that both refuse over the same address. -/
theorem agrees_of_refused {request : Request}
    (hc : m.toByteMap.complaint? request = some address)
    (ha : m.answer request = .refused (m.outside address)) (hs : m.serve request = m) :
    m.Agrees request := by
  constructor
  · unfold ByteMap.answer
    rw [ha, hc]
    rfl
  · unfold ByteMap.serve
    rw [hs, hc]

theorem agrees_load (m : Memory) (address : Int) : m.Agrees (.load address) := by
  by_cases h : m.Contains address
  · have hc : m.toByteMap.complaint? (.load address) = none :=
      complaint?_eq_none (by simpa [Request.touched] using h)
    constructor
    · simp [ByteMap.answer, hc, value_of_contains h, answer, told, read_eq h, Except.map]
    · simp [ByteMap.serve, hc, serve]
  · refine agrees_of_refused (complaint?_load h) ?_ rfl
    simp [answer, told, read_of_not_contains h, Except.map]

theorem agrees_loadWord (m : Memory) (address : Int) : m.Agrees (.loadWord address) := by
  by_cases h : m.Contains address
  · by_cases h' : m.Contains (address + 1)
    · have hc : m.toByteMap.complaint? (.loadWord address) = none :=
        complaint?_eq_none (by simp [Request.touched, h, h'])
      constructor
      · simp [ByteMap.answer, hc, value_of_contains, h, h', answer, told, readWord_eq h h', word,
          Except.map, Nat.mul_comm]
      · simp [ByteMap.serve, hc, serve]
    · refine agrees_of_refused (complaint?_loadWord_second h h') ?_ rfl
      simp [answer, told, readWord, read_eq h, read_of_not_contains h', bind, Except.bind,
        Except.map]
  · refine agrees_of_refused (complaint?_loadWord_first h) ?_ rfl
    simp [answer, told, readWord, read_of_not_contains h, bind, Except.bind, Except.map]

theorem agrees_store (m : Memory) (address value : Int) : m.Agrees (.store address value) := by
  by_cases h : m.Contains address
  · obtain ⟨m', hw⟩ := write_of_contains (UInt8.ofInt value) h
    have hc : m.toByteMap.complaint? (.store address value) = none :=
      complaint?_eq_none (by simpa [Request.touched] using h)
    constructor
    · simp [ByteMap.answer, hc, answer, told, hw, Except.map]
    · have hserve : m.serve (.store address value) = m' := by
        simp [serve, hw, Except.toOption]
      unfold ByteMap.serve
      rw [hserve, hc]
      refine (toByteMap_eq (start_write hw) (size_write hw) ?_ ?_).symm
      · intro other hother
        by_cases he : other = address
        · simp [he, byte_write hw, UInt8.ofInt]
        · simp [he, byte_write hw, byte?_of_contains hother]
      · intro other hother
        have hne : other ≠ address := fun he => hother (he ▸ h)
        simp [hne, hother]
  · refine agrees_of_refused (complaint?_store h value) ?_ ?_
    · simp [answer, told, write_of_not_contains h, Except.map]
    · simp [serve, write_of_not_contains h, Except.toOption]

/-- The cells under an image hold its bytes, and all others are as before. -/
theorem byte_placed (h : m.Contains address) (h' : m.Contains (address + image.size - 1))
    (other : Int) :
    (m.overlay (address - m.start).toNat image).byte other
      = if address ≤ other ∧ other < address + image.size then
          image.getD (other - address).toNat 0
        else m.byte other := by
  obtain ⟨hlo, -⟩ := h
  obtain ⟨-, hhi⟩ := h'
  have hstart : (m.start + (address - m.start).toNat : Int) = address := by omega
  rw [byte_overlay (by omega), hstart, show other - m.start - (address - m.start).toNat
    = other - address by omega]

theorem agrees_place (m : Memory) (address : Int) (image : Array UInt8) :
    m.Agrees (.place address image) := by
  by_cases hsize : image.size = 0
  · have hc : m.toByteMap.complaint? (.place address image) = none :=
      complaint?_eq_none (by simp [Request.touched, hsize])
    have hnone : ∀ other, ¬ (address ≤ other ∧ other < address + (image.size : Int)) := by
      omega
    constructor
    · simp [ByteMap.answer, hc, answer, told, place_of_empty hsize, Except.map]
    · simp [ByteMap.serve, hc, serve, place_of_empty hsize, Except.toOption, hnone]
  have hpos : 0 < image.size := by omega
  by_cases h : m.Contains address
  · by_cases h' : m.Contains (address + image.size - 1)
    · have hall : ∀ a ∈ (Request.place address image).touched, m.Contains a := by
        intro a ha
        simp only [Request.touched, List.mem_map, List.mem_range] at ha
        obtain ⟨j, hj, rfl⟩ := ha
        exact h.between h' (by omega) (by omega)
      have hc := complaint?_eq_none hall
      have hplace := place_of_contains hpos h h'
      constructor
      · simp [ByteMap.answer, hc, answer, told, hplace, Except.map]
      · have hserve : m.serve (.place address image)
            = m.overlay (address - m.start).toNat image := by
          simp [serve, hplace, Except.toOption]
        have hfit : (address - m.start).toNat + image.size ≤ m.size := by
          have hlo := h.1
          have hhi := h'.2
          omega
        have hstart : (m.overlay (address - m.start).toNat image).start = m.start := rfl
        unfold ByteMap.serve
        rw [hserve, hc]
        refine (toByteMap_eq hstart (size_overlay hfit) ?_ ?_).symm
        · intro other hother
          rw [byte_placed h h']
          by_cases hin : address ≤ other ∧ other < address + image.size
          · have hlt : (other - address).toNat < image.size := by omega
            simp [hin, hlt]
          · simp [hin, byte?_of_contains hother]
        · intro other hother
          have hin : ¬ (address ≤ other ∧ other < address + image.size) :=
            fun hin => hother (h.between h' hin.1 (by omega))
          simp [hin, hother]
    · have hplace := place_of_not_contains_last hpos h h'
      refine agrees_of_refused (complaint?_place_last hpos h h') ?_ ?_
      · simp [answer, told, hplace, Except.map]
      · simp [serve, hplace, Except.toOption]
  · have hplace := place_of_not_contains hpos h
    refine agrees_of_refused (complaint?_place_first hpos h) ?_ ?_
    · simp [answer, told, hplace, Except.map]
    · simp [serve, hplace, Except.toOption]

/-- **A memory serves every request as its map does.** -/
theorem agrees (m : Memory) (request : Request) : m.Agrees request := by
  cases request with
  | load address => exact agrees_load m address
  | store address value => exact agrees_store m address value
  | loadWord address => exact agrees_loadWord m address
  | place address image => exact agrees_place m address image

/-! ### Any number of requests -/

theorem answers_toByteMap (m : Memory) (requests : List Request) :
    m.toByteMap.answers requests = m.answers requests := by
  induction requests generalizing m with
  | nil => rfl
  | cons request rest ih =>
      obtain ⟨hanswer, hserve⟩ := m.agrees request
      rw [ByteMap.answers, answers, hanswer, hserve, ih]

theorem toByteMap_serveEach (m : Memory) (requests : List Request) :
    (m.serveEach requests).toByteMap = m.toByteMap.serveEach requests := by
  induction requests generalizing m with
  | nil => rfl
  | cons request rest ih =>
      rw [serveEach, ByteMap.serveEach, List.foldl_cons, List.foldl_cons, (m.agrees request).serve]
      exact ih (m.serve request)

theorem start_place {m' : Memory} (h : m.place address image = .ok m') : m'.start = m.start := by
  unfold place at h
  split at h
  · cases h
    rfl
  · split at h
    · cases h
    · dsimp only at h
      split at h
      · cases h
      · cases h
        rfl

/-- No request changes which addresses there are. -/
theorem range_serve (m : Memory) (request : Request) :
    (m.serve request).start = m.start ∧ (m.serve request).size = m.size := by
  cases request with
  | load address | loadWord address => exact ⟨rfl, rfl⟩
  | store address value =>
    rw [serve]
    cases hw : m.write address (UInt8.ofInt value) with
    | error e => exact ⟨rfl, rfl⟩
    | ok m' => exact ⟨start_write hw, size_write hw⟩
  | place address image =>
    rw [serve]
    cases hp : m.place address image with
    | error e => exact ⟨rfl, rfl⟩
    | ok m' => exact ⟨start_place hp, size_place hp⟩

theorem range_serveEach (m : Memory) (requests : List Request) :
    (m.serveEach requests).start = m.start ∧ (m.serveEach requests).size = m.size := by
  induction requests generalizing m with
  | nil => exact ⟨rfl, rfl⟩
  | cons request rest ih =>
      obtain ⟨hstart, hsize⟩ := range_serve m request
      obtain ⟨hstart', hsize'⟩ := ih (m.serve request)
      exact ⟨hstart'.trans hstart, hsize'.trans hsize⟩

/-- A request that is refused changes nothing. -/
theorem serve_of_refused {request : Request} {e : AccessError}
    (h : m.answer request = .refused e) : m.serve request = m := by
  cases request with
  | load address | loadWord address => rfl
  | store address value =>
    rw [serve]
    cases hw : m.write address (UInt8.ofInt value) with
    | error e => rfl
    | ok m' =>
        rw [answer, hw] at h
        cases h
  | place address image =>
    rw [serve]
    cases hp : m.place address image with
    | error e => rfl
    | ok m' =>
        rw [answer, hp] at h
        cases h

theorem contains_blank (start length : Nat) (address : Int) :
    (blank start length).Contains address
      ↔ (start : Int) ≤ address ∧ address < start + length := by
  rw [Contains, size_blank]
  exact Iff.rfl

/-- At the beginning every byte is zero. -/
theorem toByteMap_blank (start length : Nat) :
    (blank start length).toByteMap = .zeros start (start + length - 1) := by
  have hbyte : (blank start length).toByteMap.byte?
      = (ByteMap.zeros start (start + length - 1)).byte? := by
    funext address
    have hrange : (start : Int) ≤ address ∧ address ≤ start + length - 1
        ↔ (blank start length).Contains address := by
      rw [contains_blank]
      omega
    by_cases h : (blank start length).Contains address
    · rw [byte?_of_contains h, byte_blank]
      simp only [ByteMap.zeros, hrange, if_pos h]
    · rw [byte?_of_not_contains h]
      simp only [ByteMap.zeros, hrange, if_neg h]
  have hlast : (blank start length).lastAddress = start + length - 1 := by
    rw [lastAddress, size_blank]
    rfl
  show (⟨start, (blank start length).lastAddress, (blank start length).toByteMap.byte?⟩ : ByteMap)
    = _
  rw [hlast, hbyte]
  rfl

/--
**A memory is a map from the addresses of its range to bytes.**  Whatever is asked of it, at
whatever addresses, each answer is the one that the map gives, and in the end it holds the bytes
that the map holds, at the same addresses as in the beginning.  So an image that is placed is
stored as a whole or not at all, and no request that is refused changes anything.
-/
theorem memory_refines_map {start length : Int} (hstart : 0 ≤ start) (hlength : 0 < length)
    (requests : List Request) :
    ∃ m, ofRange? start length = some m ∧
      m.answers requests = (ByteMap.zeros start (start + length - 1)).answers requests ∧
      (m.serveEach requests).toByteMap
        = (ByteMap.zeros start (start + length - 1)).serveEach requests ∧
      (∀ address, ((m.serveEach requests).toByteMap.byte? address).isSome = true
        ↔ start ≤ address ∧ address < start + length) ∧
      ((m.serveEach requests).cells.size : Int) = length ∧
      ∀ request e, (m.serveEach requests).answer request = .refused e →
        (m.serveEach requests).serve request = m.serveEach requests := by
  obtain ⟨first, rfl⟩ := Int.eq_ofNat_of_zero_le hstart
  obtain ⟨count, rfl⟩ := Int.eq_ofNat_of_zero_le (Int.le_of_lt hlength)
  obtain ⟨hfirst, hsize⟩ := range_serveEach (blank first count) requests
  refine ⟨blank first count, ?_, ?_, ?_, ?_, ?_, ?_⟩
  · exact if_neg (by omega)
  · rw [← answers_toByteMap, toByteMap_blank]
  · rw [toByteMap_serveEach, toByteMap_blank]
  · intro address
    rw [← contains_blank, ← Option.ne_none_iff_isSome, Ne, byte?_eq_none_iff, Decidable.not_not,
      Contains, Contains, hfirst, hsize]
  · rw [show (((blank first count).serveEach requests).cells.size : Int)
      = ((blank first count).size : Int) from congrArg _ hsize, size_blank]
  · intro request e h
    exact serve_of_refused h

/--
In a range of four bytes an image is stored, another one that would go past the end is refused
for its last address although its first one fits, a value is cut to eight bits, and a word is
refused for its second byte.
-/
theorem memory_refines_map_fourBytes :
    ∃ m, ofRange? 16 4 = some m ∧
      m.answers [.place 17 #[1, 2, 3], .place 18 #[7, 8, 9], .store 19 (-1), .loadWord 18,
          .loadWord 19, .load 15, .place 100 #[]]
        = [.done, .refused ⟨20, 16, 19⟩, .done, .number 0x2FF, .refused ⟨20, 16, 19⟩,
          .refused ⟨15, 16, 19⟩, .done] := by
  obtain ⟨m, hm, hanswers, -⟩ := memory_refines_map (by decide : (0 : Int) ≤ 16)
    (by decide : (0 : Int) < 4) [.place 17 #[1, 2, 3], .place 18 #[7, 8, 9], .store 19 (-1),
      .loadWord 18, .loadWord 19, .load 15, .place 100 #[]]
  exact ⟨m, hm, hanswers.trans rfl⟩

end Memory

end Chip8
