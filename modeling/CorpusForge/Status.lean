import CorpusForge.Disk
import CorpusForge.Number.Decimal

/-!
# The status of a corpus

How many repositories a directory holds, how far that is from a target, how long the rest may
take, and what the newest repositories contain. The newest are those whose names come last.

* `CorpusStatus.read`: the status of a directory.
-/

namespace CorpusForge

/-- What a repository contains; `none` is what cannot be read. -/
structure RepositoryStatus where
  name : String
  commits : Option Number
  files : Option Nat
  deriving DecidableEq, Repr

/-- The status of a corpus. -/
structure CorpusStatus where
  outputDir : String
  total : Nat
  target : Number
  progressPercent : Number
  remaining : Number
  estimatedRemainingSeconds : Number
  repositories : List RepositoryStatus
  deriving DecidableEq

/-- The plain form of a repository's status. -/
def RepositoryStatus.toValue (r : RepositoryStatus) : Value :=
  .object [("name", .string r.name), ("commits", (r.commits.map Value.number).getD .null),
    ("files", (r.files.map Value.nat).getD .null)]

namespace CorpusStatus

/-- The plain form of a status. -/
def toValue (s : CorpusStatus) : Value :=
  .object [("outputDir", .string s.outputDir), ("total", .nat s.total),
    ("target", .number s.target), ("progressPercent", .number s.progressPercent),
    ("remaining", .number s.remaining),
    ("estimatedRemainingSeconds", .number s.estimatedRemainingSeconds),
    ("repositories", .array (s.repositories.map RepositoryStatus.toValue))]

def defaultTarget : Number := 1000

def defaultLatest : Number := 5

/-- The time that a repository is assumed to take until two of them show it. -/
def defaultInterval : Number := 180

/-- A repository directory. -/
def isRepository (entry : String × Node) : Bool :=
  entry.2.isDirectory && Text.startsWith entry.1.toList "repo-".toList

/-- The mean distance of times, in seconds; `none` for fewer than two. -/
def meanInterval (times : List Int) : Option Number :=
  match times.mergeSort (· ≤ ·) with
  | first :: second :: rest =>
    let last := ((second :: rest).getLast?).getD second
    some (.ofInt (last - first) / .ofNat (rest.length + 1) / 1000)
  | _ => none

/-- The time of the last change of an entry. -/
def changed : Node → Int
  | .directory (some ms) => ms
  | _ => 0

/-- What a repository contains. `count` counts the commits of the repository at a path. -/
def readRepository (disk : Disk) (count : String → Option Number) (dir : String) (name : String) :
    RepositoryStatus :=
  let path := Path.join [dir, name]
  match disk.countFiles (Path.segments path) path with
  | .ok files => ⟨name, count path, some files⟩
  | .error _ => ⟨name, none, none⟩

/-- The share of the target that is reached. -/
def progress (total : Nat) (target : Number) : Number :=
  if (Number.real 0).lt target then .ofNat total / target * 100 else 100

/-- How many of the repositories are shown: as many as asked for, without a fraction, or all. -/
def shown (latest : Number) (total : Nat) : Nat :=
  if (Number.real total).lt latest then total else latest.toInt.toNat

/-- What a directory holds; one that does not exist holds nothing, and neither does one without a
    name. -/
def entries (disk : Disk) (path : List String) (shown : String) :
    Except Mishap (List (String × Node)) :=
  if shown = "" then .ok []
  else
    match disk.entries path shown with
    | .ok held => .ok held
    | .error foreign =>
      match foreign.normalize with
      | .ok failure => if failure.errno = some "ENOENT" then .ok [] else .error (.failure failure)
      | .error misuse => .error (.misuse misuse)

/-- The status of the corpus in a directory, which is shown as given and lies at `cwd` unless it
    starts from the root. -/
def read (disk : Disk) (count : String → Option Number) (cwd dir : String) (target : Number)
    (latest : Number) : Except Mishap CorpusStatus := do
  let held ← entries disk (Path.segments (Path.resolve cwd dir)) dir
  let repositories := held.filter isRepository
  let names := repositories.map Prod.fst
  let remaining := (Number.real 0).maximum (target - .ofNat names.length)
  let interval := (meanInterval (repositories.map fun entry => changed entry.2)).getD defaultInterval
  return {
    outputDir := dir
    total := names.length
    target
    progressPercent := progress names.length target
    remaining
    estimatedRemainingSeconds := (remaining * interval).round
    repositories := (names.reverse.take (shown latest names.length)).map fun name =>
      readRepository disk count (Path.resolve cwd dir) name }

end CorpusStatus

end CorpusForge
