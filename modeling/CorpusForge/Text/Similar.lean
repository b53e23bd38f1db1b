import CorpusForge.Text.Units

/-!
# Similar words

The distance of two words is the number of edits that lead from one to the other: a unit added,
dropped or replaced, or two neighbours exchanged, none of them edited twice. For a word that nobody
knows, `Similar.nearest` gives the known words at the least distance, if that is small.
-/

namespace CorpusForge.Similar

/-- The least of three numbers. -/
def least (a b c : Nat) : Nat := if a ≤ b then (if a ≤ c then a else c) else if b ≤ c then b else c

/-- The distances of a word that ends in `x`, with `y` before it, from the beginnings of another
    word. `older` and `last` are the rows of the word without its last two and its last unit, from
    the beginning under view on; `behind` is the distance found last, and `before` the unit before
    the ones still to come. -/
def row (x : Nat) (y : Option Nat) :
    (before : Option Nat) → (behind : Nat) → (older last word : List Nat) → List Nat
  | before, behind, older, l :: l' :: last, u :: word =>
    let plain := least (l' + 1) (behind + 1) (l + if x = u then 0 else 1)
    let here :=
      match before, y, older with
      | some v, some z, o :: _ => if x = v ∧ z = u ∧ o + 1 < plain then o + 1 else plain
      | _, _, _ => plain
    here :: row x y (some u) here (if before.isSome then older.drop 1 else older) (l' :: last) word
  | _, _, _, _, _ => []

/-- The rows of the distances, unit by unit of a word; the last one is returned. -/
def rows (word : List Nat) :
    (y : Option Nat) → (count : Nat) → (older last : List Nat) → List Nat → List Nat
  | _, _, _, last, [] => last
  | y, count, older, last, x :: rest =>
    let next := (count + 1) :: row x y none (count + 1) older last word
    rows word (some x) (count + 1) last next rest

/-- The number of edits between two words. -/
def distance (a b : List Nat) : Nat :=
  ((rows b none 0 [] (List.range (b.length + 1)) a).getLast?).getD 0

/-- The greatest distance at which words are similar. -/
def reach : Nat := 3

/-- More than two fifths of the longer word are left unedited. -/
def isClose (distance longer : Nat) : Bool := 2 * longer < 5 * (longer - distance)

/-- The known words that are nearest so far, and their distance. -/
structure Best where
  distance : Nat := reach
  words : List String := []

/-- Looks at one more known word. Words of one unit are never similar. -/
def Best.consider (word : List Nat) (best : Best) (known : String) : Best :=
  let units := Text.units known
  let distance := Similar.distance word units
  if units.length ≤ 1 ∨ !isClose distance (max word.length units.length) then best
  else if distance < best.distance then ⟨distance, [known]⟩
  else if distance = best.distance then { best with words := best.words ++ [known] }
  else best

/-- The known words nearest to a word, in order; of equal ones the first. -/
def nearest (word : String) (known : List String) : List String :=
  Text.sort (known.eraseDups.foldl (Best.consider (Text.units word)) {}).words

end CorpusForge.Similar
