/-!
# UTF-16 units

Lengths, hashes and the order of texts are counted in UTF-16 code units: one unit for a character
of the basic plane, a surrogate pair for any other.

* `Text.units`: the units of a text;
* `Text.foldUnits`: a fold over them that builds no list;
* `Text.precedes`: the strict order of texts by their units.
-/

namespace CorpusForge.Text

/-- The code units of a character. -/
def charUnits (c : Char) : List Nat :=
  let n := c.toNat
  if n < 0x10000 then [n]
  else [0xD800 + (n - 0x10000) / 0x400, 0xDC00 + (n - 0x10000) % 0x400]

/-- The code units of a text. -/
def units (s : String) : List Nat := s.toList.flatMap charUnits

/-- A left fold over the code units. -/
def foldUnits {α : Type} (f : α → Nat → α) (start : α) (s : String) : α :=
  s.toList.foldl (fun acc c => (charUnits c).foldl f acc) start

theorem foldUnits_eq {α : Type} (f : α → Nat → α) (start : α) (s : String) :
    foldUnits f start s = (units s).foldl f start := by
  simp only [foldUnits, units]
  induction s.toList generalizing start with
  | nil => rfl
  | cons c rest ih => simp [List.flatMap_cons, List.foldl_append, ih]

/-- The number of code units. -/
def length (s : String) : Nat := foldUnits (fun n _ => n + 1) 0 s

/-- The lexicographic order of unit lists. -/
def unitsPrecede : List Nat → List Nat → Bool
  | _, [] => false
  | [], _ :: _ => true
  | a :: as, b :: bs => if a < b then true else if b < a then false else unitsPrecede as bs

/-- The order of texts by their code units. -/
def precedes (s t : String) : Bool := unitsPrecede (units s) (units t)

/-- Sorts texts by their code units. -/
def sort (texts : List String) : List String := texts.mergeSort fun s t => !precedes t s

end CorpusForge.Text
