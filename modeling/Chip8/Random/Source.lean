/-
Where random bytes come from.

A program draws one number at a time.  The numbers come from a seeded generator, or
from a sequence that is laid down in advance; such a sequence may hold any integers.
-/
import Chip8.Random.Twister

namespace Chip8

/-- A source of numbers and how far it has been used. -/
inductive RandomSource where
  /-- A sequence of answers and the number of answers given. -/
  | sequence (answer : Nat → Int) (drawn : Nat)
  /-- A generator that gives the upper eight bits of its words. -/
  | generator (state : Twister)

namespace RandomSource

/-- The generator with a seed. -/
def seeded (seed : Int) : RandomSource := generator (Twister.ofSeed seed)

/-- A list of answers that starts over at its end. -/
def cycle (answers : Array Int) : RandomSource :=
  sequence (fun k => answers.getD (k % answers.size) 0) 0

/-- The next number and the source after it. -/
def draw : RandomSource → Int × RandomSource
  | sequence answer drawn => (answer drawn, sequence answer (drawn + 1))
  | generator state =>
    let (word, state) := state.next
    ((word >>> 24).toNat, generator state)

end RandomSource

end Chip8
