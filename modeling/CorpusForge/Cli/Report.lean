import CorpusForge.Cli.Table
import CorpusForge.Machine
import CorpusForge.Number.Format
import CorpusForge.Plan
import CorpusForge.Run.Walk
import CorpusForge.Status

/-!
# Reports

What the commands print, line by line: the preview of a plan, the status of a corpus, the progress
and the summary of a run, and the checks of a machine. Each has a second, machine-readable form as
a plain value.
-/

namespace CorpusForge.Report

/-- A count, grouped. -/
def groupedCount (n : Nat) : String := (Number.ofNat n).grouped

/-! ### Plans -/

/-- The plain form of a planned repository. -/
def plannedValue (p : Planned) : Value :=
  .object [("id", .number p.spec.id), ("name", .string p.spec.name),
    ("category", .string p.spec.category), ("archetype", .string p.archetype.text),
    ("language", .string p.spec.language), ("targetLines", .number p.spec.targetLines),
    ("targetCommits", .number p.spec.targetCommits),
    ("contributors", .strings (p.spec.contributors.map Contributor.name))]

/-- The plain form of a plan. -/
def planValue (seed : String) (planned : List Planned) : Value :=
  .object [("seed", .string seed), ("repositories", .array (planned.map plannedValue))]

/-- The row of a planned repository. -/
def plannedRow (p : Planned) : List String :=
  [p.spec.id.text, p.spec.name, p.spec.category, p.archetype.text, p.spec.language,
   p.spec.targetLines.grouped, p.spec.targetCommits.grouped,
   Decimal.natText p.spec.contributors.length]

/-- The preview of a plan. -/
def plan (seed : String) (planned : List Planned) : List String :=
  let head := ["ID", "Name", "Category", "Archetype", "Language", "Lines", "Commits",
    "Contributors"]
  let body := if planned.isEmpty then "The category table has no slots."
    else Table.draw head (planned.map plannedRow)
  [s!"Plan for seed {seed}", "", body, "",
   s!"Run `reposynth generate --seed {seed}` to produce these repositories."]

/-! ### Status -/

/-- The row of a repository. What cannot be read is a question mark. -/
def repositoryRow (r : RepositoryStatus) : List String :=
  [r.name, (r.commits.map Number.grouped).getD "?", (r.files.map groupedCount).getD "?"]

/-- What remains to be done. -/
def remaining (s : CorpusStatus) : List String :=
  if Number.lt 0 s.remaining then
    [s!"  Remaining: {s.remaining.grouped}",
     s!"  Est. time: {s.estimatedRemainingSeconds.duration}"]
  else ["  Target reached."]

/-- The newest repositories. -/
def latest (s : CorpusStatus) : List String :=
  if s.repositories.isEmpty then ["No repositories generated yet."]
  else
    [s!"Latest {Decimal.natText s.repositories.length} repositories",
     Table.draw ["Repository", "Commits", "Files"] (s.repositories.map repositoryRow)]

/-- The status of a corpus. -/
def status (s : CorpusStatus) : List String :=
  [s!"Corpus status for {s.outputDir}", "",
   s!"  Generated: {groupedCount s.total} / {s.target.grouped}",
   s!"  Progress:  {s.progressPercent.fixedOne}%"]
  ++ remaining s ++ [""] ++ latest s

/-! ### Runs -/

/-- A failure in one line. -/
def failureLine (name : String) (code : ErrorCode) (message : String) : String :=
  s!"{name}: [{code.text}] {message}"

/-- What a completed repository contains. -/
def details (r : Repository) : String :=
  let commits := Decimal.natText r.commitsApplied
  let files := Decimal.natText r.manifest.length
  s!"({r.spec.language}, {commits} commits, {files} files)"

/-- The line of a completed repository. -/
def completed (r : Repository) : String :=
  match r.status with
  | .partly =>
    let message := (r.error.map Failure.message).getD ""
    s!"  ! {r.spec.name} {details r} {message}"
  | _ => s!"  ✓ {r.spec.name} {details r}"

/-- The lines of an event. Categories and skipped repositories are told only on request. -/
def event (verbose : Bool) : Event → List String
  | .runStarted seed targetCount outputDir =>
    [s!"Generating {targetCount.grouped} repositories into {outputDir}", s!"Seed: {seed}"]
  | .categoryStarted slot quota =>
    if verbose then [s!"[reposynth] Category {slot.category} ({quota.text} slots)"]
    else []
  | .repositorySkipped _ name _ => if verbose then [s!"  - {name} exists, skipped"] else []
  | .repositoryCompleted _ repository => [completed repository]
  | .repositoryFailed _ name error =>
    ["  ✗ " ++ failureLine name error.code error.message]
  | .repositoryStarted .. => []
  | .runCompleted _ => []

/-- The summary of a run that took the given number of seconds. -/
def summary (seconds : Number) (s : Summary) : List String :=
  let t := s.tally
  ["", "Generation Summary", s!"  Generated: {groupedCount t.generated}"]
  ++ (if t.partly = 0 then [] else [s!"  Partial:   {groupedCount t.partly}"])
  ++ [s!"  Skipped:   {groupedCount t.skipped}", s!"  Failed:    {groupedCount t.failed}",
      s!"  Commits:   {groupedCount t.totalCommits}", s!"  Files:     {groupedCount t.totalFiles}",
      s!"  Next index: {t.nextIndex.text}", s!"  Duration:  {seconds.duration}"]
  ++ t.failures.map fun f => "  " ++ failureLine f.name f.code f.message

/-- The plain form of the summary of a run that took the given number of milliseconds. -/
def summaryValue (milliseconds : Number) (s : Summary) : Value :=
  .object (s.toFields ++ [("durationMs", .number milliseconds)])

/-! ### Checks -/

/-- Fills up with blanks on the right. -/
def column (width : Nat) (text : String) : String :=
  String.ofList (Text.padRight width ' ' text.toList)

/-- The lines of a check. -/
def check (c : Check) : List String :=
  s!"  {c.verdict.mark} {column 12 c.name} {column 10 c.requirement} {c.value}"
    :: c.message.toList.map fun message => "      " ++ message

/-- The checks of a machine. -/
def checks (checks : List Check) : List String :=
  ["Checking environment...", ""] ++ checks.flatMap check
  ++ ["", if Check.allPassed checks then "Ready to generate." else "Some checks failed."]

/-- The plain form of the checks of a machine. -/
def checksValue (checks : List Check) : Value :=
  .object [("checks", .array (checks.map Check.toValue)),
    ("allPassed", .bool (Check.allPassed checks))]

end CorpusForge.Report
