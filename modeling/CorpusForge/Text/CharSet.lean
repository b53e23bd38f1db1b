/-!
# Sets of characters

A set of characters is given by ranges of their numbers.

* `CharSet.has`: membership;
* `CharSet.of`: the set of single characters.
-/

namespace CorpusForge

/-- Characters by the ranges of their numbers, both ends included. -/
abbrev CharSet := List (Nat × Nat)

namespace CharSet

/-- The character is in the set. -/
def has (set : CharSet) (c : Char) : Bool :=
  set.any fun (low, high) => low ≤ c.toNat && c.toNat ≤ high

/-- The set of the characters with the given numbers. -/
def of (numbers : List Nat) : CharSet := numbers.map fun n => (n, n)

end CharSet

end CorpusForge
