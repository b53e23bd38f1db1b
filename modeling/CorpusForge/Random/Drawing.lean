import CorpusForge.Number.Decimal
import CorpusForge.Random.Generator
import CorpusForge.Text.Search

/-!
# Random choices

A `Drawing` takes words from a generator. A choice that cannot be made is refused (`Refusal`)
before a word is drawn, so a refused choice leaves the stream where it was.

* `Drawing.int`: a whole number of an inclusive range;
* `Drawing.pick`, `Drawing.sample`: one item, or several at distinct positions;
* `Drawing.weightedIndex`: an index, as likely as its weight.
-/

namespace CorpusForge

/-- A request that cannot be met. -/
inductive Refusal where
  /-- A range without a whole number. -/
  | emptyRange (low high : Number)
  /-- A choice among nothing. -/
  | nothingToPick
  /-- More distinct items than there are. -/
  | sampleTooLarge (asked : Number) (available : Nat)
  /-- Weights none of which is positive. -/
  | noPositiveWeight
  /-- A contributor pool without members. -/
  | emptyPool
  /-- A history without an author. -/
  | noAuthor
  /-- A run in which no repository may be in the making. -/
  | noPlace (asked : Number)
  deriving DecidableEq

namespace Refusal

/-- The wording of a refusal. -/
def message : Refusal → String
  | emptyRange low high => s!"int() called with empty range [{low.text}, {high.text}]"
  | nothingToPick => "pick() called with empty array"
  | sampleTooLarge asked available =>
    s!"sample() asked for {asked.text} of {Decimal.natText available} values"
  | noPositiveWeight => "weightedIndex() needs at least one positive weight"
  | emptyPool => "ContributorPool needs at least one contributor"
  | noAuthor => "scheduleCommits() needs at least one contributor"
  | noPlace asked =>
    s!"Expected `concurrency` to be a number from 1 and up, got `{asked.text}` (number)"

/-- What kind of request a refusal is about. -/
inductive Matter where
  /-- A number lies outside what is possible. -/
  | range
  /-- A setting is not what it has to be. -/
  | setting
  /-- There is nothing to choose from. -/
  | choice
  deriving DecidableEq, Repr

/-- The matter of a refusal. -/
def matter : Refusal → Matter
  | nothingToPick => .choice
  | noPlace _ => .setting
  | _ => .range

end Refusal

/-- A computation that draws from a generator and may be refused with an `ε`. What was drawn
    stays drawn after a refusal. -/
abbrev Drawing (ε : Type) := ExceptT ε (StateM Gen)

namespace Drawing

variable {ε α : Type}

/-- The next word of the stream. -/
def word : Drawing ε UInt32 := fun g => (.ok g.word, g.advance)

/-- Refuses without a draw. -/
def refuse (e : ε) : Drawing ε α := fun g => (.error e, g)

/-- Runs a drawing from a generator. -/
def run (d : Drawing ε α) (g : Gen) : Except ε α × Gen := d g

/-- The fraction of `[0, 1)` that a word stands for. -/
def fraction (u : UInt32) : Number := .real ((u.toNat : Rat) / 4294967296)

/-- The whole number of `[low, high]` that a word stands for. -/
def spread (u : UInt32) (low high : Number) : Number :=
  (fraction u * (high - low).next).floor + low

/-- A whole number of the inclusive range `[low, high]`. -/
def int (low high : Number) : Drawing Refusal Number :=
  if high.floor.lt low.ceil then refuse (.emptyRange low high)
  else do
    let u ← word
    return spread u low.ceil high.floor

/-- An integer of a range that is known to hold one. -/
def within (low high : Int) : Drawing ε Int := do
  let u ← word
  return (spread u (.ofInt low) (.ofInt high)).toInt

/-- True with the given probability. -/
def chance (probability : Number) : Drawing ε Bool := do
  let u ← word
  return (fraction u).lt probability

/-- The index below `count` that a word stands for. -/
def indexOf (u : UInt32) (count : Nat) : Nat := Gen.roundCounter (u.toNat * count) / 4294967296

/-- One of the items. -/
def pick (items : List α) : Drawing Refusal α :=
  match items with
  | [] => refuse .nothingToPick
  | first :: _ => do
    let u ← word
    return items[indexOf u items.length]?.getD first

/-- Exchanges two positions. -/
def exchange (items : List α) (i j : Nat) : List α :=
  match items[i]?, items[j]? with
  | some a, some b => (items.set i b).set j a
  | _, _ => items

/-- Settles the positions `settled`, `settled + 1`, … of a shuffle, one draw each. -/
def shuffle : (rounds : Nat) → (settled : Nat) → List α → Drawing ε (List α)
  | 0, _, items => pure items
  | rounds + 1, settled, items => do
    let u ← word
    shuffle rounds (settled + 1)
      (exchange items settled (settled + indexOf u (items.length - settled)))

/-- The part of a list that a count keeps: that many items from its head, or, for a negative one,
    all but that many items at its end. A fraction does not count. -/
def cut (count : Number) (items : List α) : List α :=
  if 0 ≤ count.toInt then items.take count.toInt.toNat
  else items.take (items.length - count.toInt.natAbs)

/-- `count` items at distinct positions, in the order drawn. A fraction of an item is drawn and left
    out; a negative count draws nothing and leaves out items at the end. -/
def sample (items : List α) (count : Number) : Drawing Refusal (List α) :=
  if (Number.real items.length).lt count then refuse (.sampleTooLarge count items.length)
  else do
    let shuffled ← shuffle count.steps 0 items
    return cut count shuffled

/-- The part of a weight that counts. -/
def share (weight : Number) : Number := (Number.real 0).maximum weight

/-- Takes the shares off the threshold in turn, up to the first that brings it below zero. -/
def bucket (threshold : Number) : List Number → Option Nat
  | [] => none
  | weight :: rest =>
    let left := threshold - share weight
    if left.lt (.real 0) then some 0 else (bucket left rest).map (· + 1)

/-- The position of the last weight that is above zero or not a number; zero without one. -/
def lastBucket (weights : List Number) : Nat :=
  (weights.reverse.dropWhile fun weight => weight.le (.real 0)).length - 1

/-- An index drawn in proportion to the weights, of which negative ones count as zero. -/
def weightedIndex (weights : List Number) : Drawing Refusal Nat :=
  let total := weights.foldl (fun sum weight => sum + share weight) (.real 0)
  if total.le (.real 0) then refuse .noPositiveWeight
  else do
    let u ← word
    return (bucket (fraction u * total) weights).getD (lastBucket weights)

end Drawing

/-- The text of a seed that is made from a word: eight hexadecimal digits. -/
def freshSeed (word : UInt32) : String :=
  String.ofList (Text.padLeft 8 '0' (Nat.toDigits 16 (Drawing.indexOf word 4294967295)))

end CorpusForge
