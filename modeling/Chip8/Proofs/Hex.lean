/-
Reading numbers back from their texts.

With capital digits and without a mark, a number that is not negative is written by digits
alone, the first of them perhaps zeros that fill up its width.  Reading does not notice these
(`number_zeros_append`), so different numbers have different texts, whether they have outgrown the
width or not.

Bytes have a blank between neighbours and none inside, so splitting their text at blanks gives the
texts of the single bytes.
-/
import Chip8.Text.Hex

namespace Chip8

namespace HexStyle

/-- The capital digits, each at the place of its value. -/
def capitals : List Char :=
  ['0', '1', '2', '3', '4', '5', '6', '7', '8', '9', 'A', 'B', 'C', 'D', 'E', 'F']

/-- The number that capital digits stand for, the highest first. -/
def number (text : List Char) : Nat := text.foldl (fun n c => 16 * n + capitals.idxOf c) 0

/-- Whether a number is written by capital digits and nothing else, its sign apart. -/
structure Bare (style : HexStyle) : Prop where
  capital : style.capital = true
  unmarked : style.marked = false

theorem bare_byte : byte.Bare := ⟨rfl, rfl⟩

/-! ### Digits -/

theorem idxOf_capital : ∀ d < 16, capitals.idxOf (Nat.digitChar d).toUpper = d := by decide

theorem capital_mem : ∀ d < 16, (Nat.digitChar d).toUpper ∈ capitals := by decide

theorem number_append_singleton (text : List Char) (c : Char) :
    number (text ++ [c]) = 16 * number text + capitals.idxOf c := by
  rw [number, List.foldl_append, List.foldl_cons, List.foldl_nil, ← number]

theorem number_zeros_append (count : Nat) (text : List Char) :
    number (List.replicate count '0' ++ text) = number text := by
  induction count with
  | zero => rfl
  | succ count ih =>
      rw [List.replicate_succ, List.cons_append]
      exact ih

variable {style : HexStyle}

theorem Bare.digits_of_lt (h : style.Bare) {n : Nat} (hn : n < 16) :
    style.digits n = [(Nat.digitChar n).toUpper] := by
  rw [digits, if_pos h.capital, Nat.toDigits_of_lt_base hn, List.map_singleton]

theorem Bare.digits_of_le (h : style.Bare) {n : Nat} (hn : 16 ≤ n) :
    style.digits n = style.digits (n / 16) ++ [(Nat.digitChar (n % 16)).toUpper] := by
  rw [digits, if_pos h.capital, digits, if_pos h.capital,
    Nat.toDigits_of_base_le (by decide) hn, List.map_append, List.map_singleton]

/-- Reading the digits of a number gives the number back. -/
theorem Bare.number_digits (h : style.Bare) (n : Nat) : number (style.digits n) = n := by
  induction n using Nat.strongRecOn with
  | _ n ih =>
      by_cases hn : n < 16
      · rw [h.digits_of_lt hn, ← List.nil_append [_], number_append_singleton,
          idxOf_capital n hn]
        exact Nat.zero_add n
      · rw [h.digits_of_le (Nat.not_lt.mp hn), number_append_singleton, ih (n / 16) (by omega),
          idxOf_capital (n % 16) (Nat.mod_lt n (by decide))]
        exact Nat.div_add_mod n 16

theorem Bare.mem_capitals_of_mem_digits (h : style.Bare) {n : Nat} {c : Char}
    (hc : c ∈ style.digits n) : c ∈ capitals := by
  induction n using Nat.strongRecOn with
  | _ n ih =>
      by_cases hn : n < 16
      · rw [h.digits_of_lt hn, List.mem_singleton] at hc
        exact hc ▸ capital_mem n hn
      · rw [h.digits_of_le (Nat.not_lt.mp hn), List.mem_append, List.mem_singleton] at hc
        rcases hc with hc | rfl
        · exact ih (n / 16) (by omega) hc
        · exact capital_mem (n % 16) (Nat.mod_lt n (by decide))

/-! ### Numbers -/

section

variable (h : style.Bare) {n : Int} (hn : 0 ≤ n)

include h hn

theorem Bare.chars_eq : ∃ zeros, style.chars n
    = List.replicate zeros '0' ++ style.digits n.toNat := by
  have hlead : style.lead n = [] := by
    rw [lead, if_neg (Int.not_lt.mpr hn), h.unmarked]
    rfl
  have habs : n.natAbs = n.toNat := by omega
  exact ⟨_, by rw [chars, hlead, habs, List.nil_append]⟩

/-- **Reading a number gives it back**, however many zeros stand before its digits. -/
theorem Bare.number_chars : (number (style.chars n) : Int) = n := by
  obtain ⟨zeros, hchars⟩ := h.chars_eq hn
  rw [hchars, number_zeros_append, h.number_digits, Int.toNat_of_nonneg hn]

theorem Bare.mem_capitals_of_mem_chars {c : Char} (hc : c ∈ style.chars n) : c ∈ capitals := by
  obtain ⟨zeros, hchars⟩ := h.chars_eq hn
  rw [hchars, List.mem_append] at hc
  rcases hc with hc | hc
  · rw [List.eq_of_mem_replicate hc]
    decide
  · exact h.mem_capitals_of_mem_digits hc

/-- **Different numbers have different texts.** -/
theorem Bare.chars_inj {m : Int} (hm : 0 ≤ m) (heq : style.chars n = style.chars m) : n = m := by
  rw [← h.number_chars hn, heq, h.number_chars hm]

end

end HexStyle

/-! ### Bytes -/

/-- The two digits of a byte. -/
def byteChars (b : UInt8) : List Char := HexStyle.byte.chars b.toNat

theorem mem_capitals_of_mem_byteChars {b : UInt8} {c : Char} (hc : c ∈ byteChars b) :
    c ∈ HexStyle.capitals := HexStyle.bare_byte.mem_capitals_of_mem_chars (by omega) hc

theorem byteChars_inj {b b' : UInt8} (h : byteChars b = byteChars b') : b = b' := by
  have hnat := HexStyle.bare_byte.chars_inj (Int.natCast_nonneg _) (Int.natCast_nonneg _) h
  exact UInt8.toNat_inj.mp (Int.natCast_inj.mp hnat)

theorem byteChars_ne_nil (b : UInt8) : byteChars b ≠ [] := by
  obtain ⟨zeros, hchars⟩ := HexStyle.bare_byte.chars_eq (Int.natCast_nonneg b.toNat)
  rw [byteChars, hchars]
  exact List.append_ne_nil_of_right_ne_nil _ fun hnil =>
    Nat.toDigits_ne_nil (List.map_eq_nil_iff.mp hnil)

theorem toList_hexBytes (bytes : List UInt8) :
    (hexBytes bytes).toList = [' '].intercalate (bytes.map byteChars) := by
  rw [hexBytes, String.toList_intercalate, List.map_map]
  refine congrArg (List.intercalate [' ']) (List.map_congr_left fun b _ => ?_)
  exact String.toList_ofList

/-- Splitting a row of bytes at its blanks gives the single bytes. -/
theorem splitOn_hexBytes {bytes : List UInt8} (h : bytes ≠ []) :
    (hexBytes bytes).toList.splitOn ' ' = bytes.map byteChars := by
  rw [toList_hexBytes]
  refine List.splitOn_intercalate ' ' ?_ (fun hnil => h (List.map_eq_nil_iff.mp hnil))
  intro text hmem hblank
  obtain ⟨b, -, rfl⟩ := List.mem_map.mp hmem
  exact absurd (mem_capitals_of_mem_byteChars hblank) (by decide)

theorem hexBytes_ne_empty {bytes : List UInt8} (h : bytes ≠ []) : hexBytes bytes ≠ hexBytes [] := by
  intro heq
  have hsplit := splitOn_hexBytes h
  have hnil : (hexBytes []).toList = [] := rfl
  rw [heq, hnil, List.splitOn_nil] at hsplit
  obtain ⟨b, -, hb⟩ := List.mem_map.mp (hsplit ▸ List.mem_singleton_self ([] : List Char))
  exact byteChars_ne_nil b hb

/-- **Different rows of bytes have different texts**, whatever their lengths. -/
theorem hexBytes_inj {bytes bytes' : List UInt8} (h : hexBytes bytes = hexBytes bytes') :
    bytes = bytes' := by
  cases bytes with
  | nil =>
      cases bytes' with
      | nil => rfl
      | cons b rest => exact absurd h.symm (hexBytes_ne_empty (List.cons_ne_nil b rest))
  | cons b rest =>
      cases bytes' with
      | nil => exact absurd h (hexBytes_ne_empty (List.cons_ne_nil b rest))
      | cons b' rest' =>
          have hsplit := splitOn_hexBytes (List.cons_ne_nil b rest)
          rw [h, splitOn_hexBytes (List.cons_ne_nil b' rest')] at hsplit
          exact ((List.map_inj_right fun _ _ => byteChars_inj).mp hsplit).symm

/-- A row of bytes consists of digits and blanks. -/
theorem mem_hexBytes {bytes : List UInt8} {c : Char} (hc : c ∈ (hexBytes bytes).toList) :
    c = ' ' ∨ c ∈ HexStyle.capitals := by
  rw [toList_hexBytes] at hc
  induction bytes with
  | nil => cases hc
  | cons b rest ih =>
      cases rest with
      | nil =>
          rw [List.map_singleton, List.intercalate_singleton] at hc
          exact .inr (mem_capitals_of_mem_byteChars hc)
      | cons b' rest' =>
          rw [List.map_cons, List.map_cons, List.intercalate_cons_cons, List.mem_append,
            List.mem_append, List.mem_singleton] at hc
          rcases hc with (hc | hc) | hc
          · exact .inr (mem_capitals_of_mem_byteChars hc)
          · exact .inl hc
          · exact ih hc

end Chip8
