/-
A generator of 32-bit words with a state of 624 words.

The state is a stretch of a linear recurrence: a fresh word is made of the upper bit
of one word, the lower bits of the next and the word 397 places on.  A whole stretch
is renewed at once, and each of its words is scrambled when it is handed out.

A seed of any size is cut into words of 32 bits, the lowest first, and stirred into
the state word by word.
-/
namespace Chip8

/-- The state of the generator. -/
structure Twister where
  words : Array UInt32
  /-- How many words of the present stretch were handed out. -/
  used : Nat

namespace Twister

/-- The number of words in a stretch. -/
def length : Nat := 624

/-- The word at a place. -/
def word (words : Array UInt32) (i : Nat) : UInt32 := words.getD i 0

/-- A word mixed with its own upper bits. -/
def fold30 (w : UInt32) : UInt32 := w ^^^ (w >>> 30)

/-- The stretch that follows from a single word. -/
def spread (first : UInt32) : Array UInt32 :=
  (List.range (length - 1)).foldl
    (fun words k => words.push (1812433253 * fold30 (word words k) + UInt32.ofNat (k + 1))) #[first]

/-- One turn of stirring: changes a word by its left neighbour and moves on, in a circle that
leaves out the first place, which repeats the last. -/
def stir (change : UInt32 → UInt32 → UInt32) (state : Array UInt32 × Nat) :
    Array UInt32 × Nat :=
  let (words, i) := state
  let words := words.setIfInBounds i (change (word words i) (fold30 (word words (i - 1))))
  if i + 1 < length then (words, i + 1)
  else (words.setIfInBounds 0 (word words (length - 1)), 1)

/-- The words of 32 bits of a number, the lowest first, at least one. -/
def keyWords (n : Nat) : List UInt32 :=
  if _ : n < UInt32.size then [UInt32.ofNat n]
  else UInt32.ofNat (n % UInt32.size) :: keyWords (n / UInt32.size)
termination_by n
decreasing_by
  rename_i h
  exact Nat.div_lt_self (Nat.lt_of_lt_of_le (by decide) (Nat.not_lt.mp h)) (by decide)

/-- The state made from a list of key words. -/
def ofKey (key : Array UInt32) : Twister :=
  let mixed := (List.range (max length key.size)).foldl
    (fun state k =>
      let j := k % key.size
      stir (fun w left => (w ^^^ (left * 1664525)) + word key j + UInt32.ofNat j) state)
    (spread 19650218, 1)
  let settled := (List.range (length - 1)).foldl
    (fun state _ => stir (fun w left => (w ^^^ (left * 1566083941)) - UInt32.ofNat state.2) state)
    mixed
  ⟨settled.1.setIfInBounds 0 0x80000000, length⟩

/-- The state made from an integer seed; its sign is not used. -/
def ofSeed (seed : Int) : Twister := ofKey (keyWords seed.natAbs).toArray

/-- The next stretch of the recurrence. -/
def renew (words : Array UInt32) : Array UInt32 :=
  (List.range length).foldl
    (fun words k =>
      let y := (word words k &&& 0x80000000) ||| (word words ((k + 1) % length) &&& 0x7fffffff)
      let odd : UInt32 := if y &&& 1 = 0 then 0 else 0x9908b0df
      words.setIfInBounds k (word words ((k + 397) % length) ^^^ (y >>> 1) ^^^ odd))
    words

/-- Scrambles a word on its way out. -/
def temper (y : UInt32) : UInt32 :=
  let y := y ^^^ (y >>> 11)
  let y := y ^^^ ((y <<< 7) &&& 0x9d2c5680)
  let y := y ^^^ ((y <<< 15) &&& 0xefc60000)
  y ^^^ (y >>> 18)

/-- The next word and the state after it. -/
def next (t : Twister) : UInt32 × Twister :=
  if t.used < length then (temper (word t.words t.used), { t with used := t.used + 1 })
  else
    let words := renew t.words
    (temper (word words 0), ⟨words, 1⟩)

end Twister

end Chip8
