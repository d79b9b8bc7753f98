/-
The sixteen keys.

The keys are numbered from zero.  On a host keyboard they lie in a square of four
rows, and the name of a host key selects a keypad key whatever its case.
-/
import Chip8.Numeric.Place

namespace Chip8

/-- Which keys are held down. -/
structure Keypad where
  held : Vector Bool 16

namespace Keypad

/-- No key is held. -/
def released : Keypad := ⟨Vector.replicate 16 false⟩

/-- A key number that names no key. -/
structure NoSuchKey where
  index : Int

/-- The complaint names the number. -/
def NoSuchKey.message (e : NoSuchKey) : String :=
  "key index " ++ toString e.index ++ " outside 0-15"

/-- Whether a key is held. -/
def holds (k : Keypad) (key : Fin 16) : Bool := k.held.get key

/-- The keypad after a key went down or up. -/
def set (k : Keypad) (key : Fin 16) (down : Bool) : Keypad :=
  ⟨k.held.setIfInBounds key.val down⟩

/-- The key with a number; the keys are not counted from the end. -/
def key? (index : Int) : Option (Fin 16) := if 0 ≤ index then place? 16 index else none

/-- Whether the key at a place counted from either end of the keypad is held. -/
def holdsAt? (k : Keypad) (index : Int) : Option Bool := (place? 16 index).map k.holds

/-- The lowest key that is held. -/
def first? (k : Keypad) : Option (Fin 16) := (List.finRange 16).find? k.holds

/-! ### Host keys -/

/-- The rows of host keys that stand for the keys from 0 to 15. -/
def layout : List Char :=
  ['1', '2', '3', '4', 'q', 'w', 'e', 'r', 'a', 's', 'd', 'f', 'z', 'x', 'c', 'v']

/--
The key behind the name of a host key, which is a single character of the layout in
either case.  No character beyond the basic alphabet has one of these letters as its
small letter, so folding the basic alphabet is enough.
-/
def ofName? (name : String) : Option (Fin 16) :=
  match name.toList with
  | [c] => (List.finRange 16).find? fun k => layout[k.val]? == some c.toLower
  | _ => none

/-! ### What setting a key changes -/

theorem holds_set (k : Keypad) (key other : Fin 16) (down : Bool) :
    (k.set key down).holds other = if key = other then down else k.holds other := by
  show (k.held.setIfInBounds key.val down)[other.val] = if key = other then down
    else k.held[other.val]
  simp only [Vector.getElem_setIfInBounds, Fin.ext_iff]

theorem holds_released (key : Fin 16) : released.holds key = false := by
  show (Vector.replicate 16 false)[key.val] = false
  simp

theorem key?_eq_none_iff {index : Int} : key? index = none ↔ index < 0 ∨ 16 ≤ index := by
  unfold key?
  split
  · rw [← Option.not_isSome_iff_eq_none, place?_isSome_iff]
    omega
  · simp only [true_iff]
    omega

theorem key?_eq_some_iff {index : Int} {key : Fin 16} :
    key? index = some key ↔ index = key.val := by
  by_cases h : 0 ≤ index ∧ index < (16 : Nat)
  · rw [key?, place?, if_pos h.1, dif_pos h, Option.some.injEq, Fin.ext_iff]
    show index.toNat = key.val ↔ _
    omega
  · have hlt := key.isLt
    rw [key?_eq_none_iff.mpr (by omega)]
    simp only [reduceCtorEq, false_iff]
    omega

/-! ### The lowest key -/

theorem first?_eq_none_iff {k : Keypad} : k.first? = none ↔ ∀ key, k.holds key = false := by
  rw [first?, List.find?_eq_none]
  simp

theorem first?_eq_some_iff {k : Keypad} {key : Fin 16} :
    k.first? = some key ↔ k.holds key = true ∧ ∀ other < key, k.holds other = false := by
  rw [first?, List.find?_eq_some_iff_getElem]
  refine and_congr_right fun _ => ?_
  constructor
  · rintro ⟨i, hi, rfl, hbefore⟩ other hlt
    simpa using hbefore other.val (by simpa [Fin.lt_def] using hlt)
  · intro hbefore
    refine ⟨key.val, by simp, by simp, ?_⟩
    intro j hj
    simpa using hbefore ⟨j, by omega⟩ hj

end Keypad

end Chip8
