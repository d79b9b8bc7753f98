/-
Which images are programs, and the memory they find.

An image is looked at twice: when it is read from a file, and when a processor is set up
with it.  Each time its size is compared with the room for programs, and both come to the
same answer; so a console never refuses what was read.

The memory of a processor is laid out without a look at addresses.  None is needed: if
digits and program were placed one after the other, with the checks of every placement, no
check would fail and the memory would be the same (`place_font`, `place_program`).
-/
import Chip8.Console
import Chip8.Proofs.ByteMap
import Chip8.Proofs.Reachable

namespace Chip8

variable {image : Array UInt8}

/-! ### Images that do not fit -/

theorem fitsProgramSpace_iff : FitsProgramSpace image ↔ 1 ≤ image.size ∧ image.size ≤ 3584 :=
  Iff.rfl

theorem Program.ofImage_of_not_fits (h : ¬ FitsProgramSpace image) (name : String) :
    ofImage name image = .error ⟨image.size⟩ := by
  unfold ofImage
  exact if_neg h

theorem Processor.start_of_not_fits (h : ¬ FitsProgramSpace image) (setup : Setup) :
    start image setup = .error ⟨image.size⟩ := by
  unfold start
  exact if_neg h

/-- A console only ever complains about the image if the image does not fit. -/
theorem Console.not_fits_of_start_error {setup : Processor.Setup} {clock : Clock}
    {history : Option History} {e : BadImage}
    (h : start image setup clock history = .error (.badImage e)) : ¬ FitsProgramSpace image := by
  intro hfit
  have hstart : Processor.start image setup = .ok (Processor.loaded image setup) :=
    Processor.start_eq_ok_iff.mpr ⟨hfit, rfl⟩
  unfold start at h
  by_cases hspeed : clock.speed < 0
  · rw [if_pos hspeed] at h
    cases h
  · by_cases hrate : clock.frameRate ≤ 0
    · rw [if_neg hspeed, if_pos hrate] at h
      cases h
    · rw [if_neg hspeed, if_neg hrate, hstart] at h
      cases h

namespace Memory

/-! ### The memory a program finds -/

/-- The memory that a program finds, byte by byte. -/
structure Initial (image : Array UInt8) (m : Memory) : Prop where
  start : m.start = 0
  size : m.size = 4096
  /-- The program lies from `0x200` on -/
  program : ∀ (j : Nat) (value : UInt8), image[j]? = some value → m.read (0x200 + j) = .ok value
  /-- and the digits from `0x050` on; -/
  glyphs : ∀ (j : Nat) (value : UInt8), Font.glyphs[j]? = some value →
    m.read (0x050 + j) = .ok value
  /-- no other byte is set. -/
  elsewhere : ∀ address : Int, 0 ≤ address → address ≤ 0xFFF →
    (∀ j < image.size, address ≠ 0x200 + (j : Nat)) →
    (∀ j < Font.glyphs.size, address ≠ 0x050 + (j : Nat)) → m.read address = .ok 0

theorem place_font : (blank 0 memorySize).place Font.start Font.glyphs = .ok withFont := by
  have hfirst : (blank 0 memorySize).Contains Font.start := by
    rw [Contains, size_blank]
    decide
  have hlast : (blank 0 memorySize).Contains (Font.start + Font.glyphs.size - 1) := by
    rw [Contains, size_blank]
    decide
  rw [place_of_contains (by decide) hfirst hlast]
  rfl

theorem place_program (h : FitsProgramSpace image) :
    withFont.place programStart image = .ok (loaded image) := by
  obtain ⟨hpos, hle⟩ := fitsProgramSpace_iff.mp h
  have hcontains : ∀ address : Int, 0 ≤ address → address < 4096 → withFont.Contains address := by
    intro address hlo hhi
    rw [Contains, size_withFont]
    exact ⟨hlo, hhi⟩
  have hfirst : withFont.Contains programStart := hcontains _ (by decide) (by decide)
  have hlast : withFont.Contains (programStart + image.size - 1) := by
    unfold programStart
    exact hcontains _ (by omega) (by omega)
  rw [place_of_contains hpos hfirst hlast]
  rfl

theorem read_loaded (h : FitsProgramSpace image) {address : Int} (hlo : 0 ≤ address)
    (hhi : address ≤ 0xFFF) : (loaded image).read address = .ok ((loaded image).byte address) := by
  refine read_eq ⟨hlo, ?_⟩
  rw [start_loaded, size_loaded h, memorySize]
  omega

/-- A byte of an image, counted from where the image lies. -/
theorem getD_behind {j : Nat} {value : UInt8} (h : image[j]? = some value) (first : Int) :
    image.getD (first + j - first).toNat 0 = value := by
  have hj : (first + j - first).toNat = j := by omega
  rw [hj, Array.getD_eq_getD_getElem?, h, Option.getD_some]

theorem initial_loaded (h : FitsProgramSpace image) : Initial image (loaded image) where
  start := start_loaded image
  size := size_loaded h
  program := by
    intro j value hj
    have hlt : j < image.size := (Array.getElem?_eq_some_iff.mp hj).1
    have hle := (fitsProgramSpace_iff.mp h).2
    rw [read_loaded h (by omega) (by omega), byte_loaded h, if_pos (by omega),
      getD_behind hj]
  glyphs := by
    intro j value hj
    have hlt : j < 80 := (Array.getElem?_eq_some_iff.mp hj).1
    rw [read_loaded h (by omega) (by omega), byte_loaded h, if_neg (by omega), if_pos (by omega),
      getD_behind hj]
  elsewhere := by
    intro address hlo hhi hprogram hglyphs
    have hprogram' : ¬ (0x200 ≤ address ∧ address < 0x200 + image.size) := by
      intro hin
      exact hprogram (address - 0x200).toNat (by omega) (by omega)
    have hglyphs' : ¬ (0x050 ≤ address ∧ address < 0x0A0) := by
      intro hin
      have hsize : Font.glyphs.size = 80 := Font.size_glyphs
      exact hglyphs (address - 0x050).toNat (by omega) (by omega)
    rw [read_loaded h hlo hhi, byte_loaded h, if_neg hprogram', if_neg hglyphs']

end Memory

namespace Processor

/--
**An image is accepted everywhere or nowhere**, and only its size decides.  What was read is
never refused by a console.  The memory of an accepted image is what placing the digits and the
image would give, both of which succeed; it holds the image and the digits at their places and
zeros elsewhere.
-/
theorem images_accepted_alike (name : String) (image : Array UInt8) (setup : Setup) :
    ((∃ program, Program.ofImage name image = .ok program) ↔
      1 ≤ image.size ∧ image.size ≤ 3584) ∧
    ((∃ p, start image setup = .ok p) ↔ 1 ≤ image.size ∧ image.size ≤ 3584) ∧
    (¬ (1 ≤ image.size ∧ image.size ≤ 3584) →
      Program.ofImage name image = .error ⟨image.size⟩ ∧
      start image setup = .error ⟨image.size⟩) ∧
    (∀ program, Program.ofImage name image = .ok program →
      program.image = image ∧ ∀ clock history e,
        Console.start program.image setup clock history ≠ .error (.badImage e)) ∧
    ∀ p, start image setup = .ok p →
      (∃ m, (Memory.blank 0 memorySize).place Font.start Font.glyphs = .ok m ∧
        m.place programStart image = .ok p.memory) ∧
      Memory.Initial image p.memory ∧ Font.glyphs.size = 80 := by
  refine ⟨?_, ?_, ?_, ?_, ?_⟩
  · constructor
    · rintro ⟨program, h⟩
      exact (Program.ofImage_eq_ok_iff.mp h).1
    · intro hfit
      exact ⟨_, Program.ofImage_eq_ok_iff.mpr ⟨hfit, rfl⟩⟩
  · constructor
    · rintro ⟨p, h⟩
      exact (start_eq_ok_iff.mp h).1
    · intro hfit
      exact ⟨_, start_eq_ok_iff.mpr ⟨hfit, rfl⟩⟩
  · intro hbad
    exact ⟨Program.ofImage_of_not_fits hbad name, start_of_not_fits hbad setup⟩
  · intro program h
    obtain ⟨hfit, rfl⟩ := Program.ofImage_eq_ok_iff.mp h
    refine ⟨rfl, ?_⟩
    intro clock history e herror
    exact Console.not_fits_of_start_error herror hfit
  · intro p h
    obtain ⟨hfit, rfl⟩ := start_eq_ok_iff.mp h
    exact ⟨⟨Memory.withFont, Memory.place_font, Memory.place_program hfit⟩,
      Memory.initial_loaded hfit, Font.size_glyphs⟩

/-- The longest program fills memory to its last byte, and one byte more is refused. -/
theorem images_accepted_alike_longest :
    (∃ p, start (.replicate 3584 0xAB) plainSetup = .ok p ∧ p.memory.read 0xFFF = .ok 0xAB) ∧
      start (.replicate 3585 0xAB) plainSetup = .error ⟨3585⟩ := by
  obtain ⟨-, hstart, -, -, hmemory⟩ :=
    images_accepted_alike "longest" (.replicate 3584 0xAB) plainSetup
  obtain ⟨-, -, hbad, -⟩ := images_accepted_alike "longer" (.replicate 3585 0xAB) plainSetup
  rw [Array.size_replicate] at hstart hbad
  obtain ⟨p, hp⟩ := hstart.mpr (by decide)
  obtain ⟨-, hinitial, -⟩ := hmemory p hp
  refine ⟨⟨p, hp, hinitial.program 0xDFF 0xAB ?_⟩, (hbad (by decide)).2⟩
  simp

end Processor

end Chip8
