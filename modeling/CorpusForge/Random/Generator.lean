import CorpusForge.Number.Basic
import CorpusForge.Text.Units

/-!
# The generator of raw draws

Every random choice of a corpus comes from one stream of 32-bit words per repository, so the
corpus is a function of its seed. A stream is a counter that advances by a fixed odd increment and
a scrambler that turns each position of the counter into a word.

* `seedHash`: the 32-bit hash that turns a text into a first counter;
* `Gen.next`: a word and the generator after it;
* `Gen.after`: the generator after a number of draws.

The counter is a binary64 number: it is exact as long as it stays below `2 ^ 53` and is rounded
to the grid beyond (`roundCounter`).
-/

namespace CorpusForge

/-- One step of the seed hash: the unit is mixed into the word as a whole. -/
def hashStep (hash : UInt32) (unit : Nat) : UInt32 :=
  (hash ^^^ UInt32.ofNat unit) * 16777619

/-- The 32-bit hash of a text, over its UTF-16 units. -/
def seedHash (text : String) : UInt32 := Text.foldUnits hashStep 2166136261 text

/-- A generator: the position of its counter. -/
structure Gen where
  counter : Nat
  deriving DecidableEq, Repr, Inhabited

namespace Gen

/-- The distance between two positions of the counter. -/
def increment : Nat := 0x6d2b79f5

/-- A counter on the binary64 grid. -/
def roundCounter (n : Nat) : Nat :=
  if n ≤ 9007199254740992 then n else (Number.round53 (n : Rat)).floor.toNat

/-- The word at a position of the counter. -/
def scramble (t : UInt32) : UInt32 :=
  let a := (t ^^^ (t >>> 15)) * (t ||| 1)
  let b := a ^^^ (a + (a ^^^ (a >>> 7)) * (a ||| 61))
  b ^^^ (b >>> 14)

/-- The generator one position further. -/
def advance (g : Gen) : Gen := ⟨roundCounter (g.counter + increment)⟩

/-- The word drawn from a generator. -/
def word (g : Gen) : UInt32 := scramble (UInt32.ofNat g.advance.counter)

/-- The generator after `n` draws. -/
def after : Nat → Gen → Gen
  | 0, g => g
  | n + 1, g => after n g.advance

/-- A generator that starts at a word. -/
def ofWord (w : UInt32) : Gen := ⟨w.toNat⟩

/-- The generator of a text seed. -/
def ofText (seed : String) : Gen := ofWord (seedHash seed)

/-- The generator of a numeric seed: its integer part modulo `2 ^ 32`. -/
def ofNumber (seed : Number) : Gen := ofWord seed.toWord

end Gen

end CorpusForge
