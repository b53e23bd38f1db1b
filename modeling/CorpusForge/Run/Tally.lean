import CorpusForge.Quota
import CorpusForge.Repository

/-!
# What a run counts and tells

A run counts the repositories that it makes, skips, and fails to make (`Tally`), tells what happens
while it goes on (`Event`), and sums up at its end (`Summary`).
-/

namespace CorpusForge

/-- A repository that could not be made, or not completely. -/
structure RunFailure where
  index : Number
  name : String
  code : ErrorCode
  message : String

/-- A slot that a repository is to be made for. -/
structure Job where
  slot : Slot
  index : Number
  name : String

/-- The counts of a run. -/
structure Tally where
  nextIndex : Number
  generated : Nat := 0
  partly : Nat := 0
  failed : Nat := 0
  skipped : Nat := 0
  totalCommits : Nat := 0
  totalFiles : Nat := 0
  /-- The failures in the order in which they were counted. -/
  failures : List RunFailure := []

/-- What a run reports at its end. -/
structure Summary where
  seed : String
  outputDir : String
  startIndex : Number
  targetCount : Number
  tally : Tally

/-- The plain form of a noted failure. -/
def RunFailure.toValue (f : RunFailure) : Value :=
  .object [("index", .number f.index), ("name", .string f.name), ("code", .string f.code.text),
    ("message", .string f.message)]

/-- The fields of a summary's plain form. -/
def Summary.toFields (s : Summary) : Fields :=
  [("seed", .string s.seed), ("outputDir", .string s.outputDir),
   ("startIndex", .number s.startIndex), ("nextIndex", .number s.tally.nextIndex),
   ("targetCount", .number s.targetCount), ("generated", .nat s.tally.generated),
   ("partial", .nat s.tally.partly), ("failed", .nat s.tally.failed),
   ("skipped", .nat s.tally.skipped), ("totalCommits", .nat s.tally.totalCommits),
   ("totalFiles", .nat s.tally.totalFiles),
   ("failures", .array (s.tally.failures.map RunFailure.toValue))]

/-- What a run tells while it goes on. -/
inductive Event where
  | runStarted (seed : String) (targetCount : Number) (outputDir : String)
  | categoryStarted (slot : Slot) (quota : Number)
  | repositoryStarted (index : Number) (spec : Spec)
  | repositorySkipped (index : Number) (name path : String)
  | repositoryCompleted (index : Number) (repository : Repository)
  | repositoryFailed (index : Number) (name : String) (error : Failure)
  | runCompleted (summary : Summary)

namespace Tally

/-- The repositories that count towards the target: those made now and those that existed. -/
def produced (t : Tally) : Nat := t.generated + t.partly + t.skipped

/-- Adds a failure to the list. -/
def note (t : Tally) (job : Job) (failure : Failure) : Tally :=
  { t with failures := t.failures ++ [⟨job.index, job.name, failure.code, failure.message⟩] }

/-- Counts a job for which no specification could be drawn. -/
def countRefused (t : Tally) (job : Job) (failure : Failure) : Tally :=
  { t with failed := t.failed + 1 }.note job failure

/-- Counts a repository by its status. -/
def countStatus (t : Tally) (repository : Repository) : Tally :=
  match repository.status with
  | .success =>
    { t with generated := t.generated + 1
             totalFiles := t.totalFiles + repository.manifest.length }
  | .partly =>
    { t with partly := t.partly + 1
             totalFiles := t.totalFiles + repository.manifest.length }
  | .failed => { t with failed := t.failed + 1 }

/-- Counts a repository. -/
def count (t : Tally) (job : Job) (repository : Repository) : Tally :=
  let t := { t with totalCommits := t.totalCommits + repository.commitsApplied }.countStatus
    repository
  match repository.error with
  | some failure => t.note { job with name := repository.spec.name } failure
  | none => t

/-- Counts a job by its outcome. -/
def countOutcome (t : Tally) (job : Job) : Except Failure Repository → Tally
  | .error failure => t.countRefused job failure
  | .ok repository => t.count job repository

end Tally

end CorpusForge
