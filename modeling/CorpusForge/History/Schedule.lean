import CorpusForge.Config.Basic
import CorpusForge.History.Message
import CorpusForge.History.Timestamp
import CorpusForge.Random.Drawing

/-!
# The schedule of a history

The first commit holds the bootstrap files and lies a whole span back. The other files follow in
batches of one size, each a commit of its own with a drawn type, author and distance in time; when
the budget of commits runs out the last one takes everything left. So every file is committed
once.

* `Schedule.batches`: the files of the commits after the first;
* `Schedule.plan`: the commits.
-/

namespace CorpusForge

/-- A commit of a planned history. -/
structure Commit where
  index : Nat
  timestamp : Timestamp
  author : Contributor
  message : String
  files : List String
  deriving DecidableEq, Repr

namespace Schedule

/-- What a history is planned from. -/
structure Input where
  files : List String
  bootstrapFiles : List String
  targetCommits : Number
  contributors : List Contributor
  now : Timestamp
  timeline : Timeline

/-- The message of the first commit. -/
def initialMessage : String := "Initial commit"

/-- The number of commits that are kept in reserve when batches are sized. -/
def headroom : Number := 10

/-- The number of files in a batch. -/
def batchSize (remaining targetCommits : Number) : Number :=
  if targetCommits.le headroom then 1
  else Number.maximum 1 (remaining / (targetCommits - headroom)).floor

/-- How many batches may be followed by another one. The last commit of the budget takes all that is
    left; a budget that is no whole number has no last commit. -/
def reserve (targetCommits : Number) (files : Nat) : Nat :=
  if targetCommits.isInteger then (targetCommits - 2).steps else files

/-- The files in at most `budget + 1` batches of the given size, of which the last takes all that
    is left. -/
def batches (size : Nat) : (budget : Nat) → List String → List (List String)
  | _, [] => []
  | 0, files => [files]
  | budget + 1, files => files.take size :: batches size budget (files.drop size)

/-- The files that are not committed first. -/
def remaining (input : Input) : List String :=
  input.files.filter fun file => !input.bootstrapFiles.contains file

/-- One commit per batch, from number `index` and time `ms` on. A time outside the calendar stays
    outside. -/
def commitsFrom (input : Input) : (index : Nat) → (ms : Number) → List (List String) →
    Drawing Refusal (List Commit)
  | _, _, [] => pure []
  | index, ms, files :: rest => do
    let type ← Drawing.pick CommitType.all
    let author ← Drawing.pick input.contributors
    let gap ← Drawing.int input.timeline.minGapHours input.timeline.maxGapHours
    let ms := ms + gap * .ofInt Timestamp.hourMs
    let commit : Commit :=
      { index, timestamp := Timestamp.ofNumber ms, author
        message := type.message (componentOf (files.head?.getD "")), files }
    let more ← commitsFrom input (index + 1) ms rest
    return commit :: more

/-- The commits of a history. -/
def plan (input : Input) : Drawing Refusal (List Commit) :=
  match input.contributors with
  | [] => Drawing.refuse .noAuthor
  | founder :: _ => do
    let start := Timestamp.bootstrap input.now input.timeline.spanDays
    let rest := remaining input
    let first (files : List String) : Commit :=
      { index := 0, timestamp := start, author := founder, message := initialMessage, files }
    if input.targetCommits.le 1 then
      return [first (input.bootstrapFiles ++ rest)]
    else
      let size := (batchSize (.ofNat rest.length) input.targetCommits).upTo rest.length
      let commits ← commitsFrom input 1 start.toNumber
        (batches size (reserve input.targetCommits rest.length) rest)
      return first input.bootstrapFiles :: commits

end Schedule

end CorpusForge
