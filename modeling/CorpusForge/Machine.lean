import CorpusForge.Config.Corpus
import CorpusForge.Disk
import CorpusForge.Text.Blank
import CorpusForge.Version

/-!
# Checks of a machine

Four checks tell whether a machine can make a corpus: the runtime and git are recent enough, the
tables are there, and the output directory can be written to. A check passes, warns or fails; a
warning does not keep a corpus from being made.

* `Check.all`: the four checks;
* `Check.allPassed`: none of them fails.
-/

namespace CorpusForge

/-- What a program that was asked for its version answered; no exit code when it could not be
    started. -/
structure Probe where
  exit : Option Int
  stdout : String
  stderr : String

namespace Probe

/-- The answer of a program that is not there. -/
def absent : Probe := ⟨none, "", ""⟩

/-- Why a program is not usable: what it complains about, or its exit code. -/
def complaint (command : String) (probe : Probe) : String :=
  let said := Text.trim probe.stderr.toList
  let code := match probe.exit with
    | some n => Number.intText n
    | none => "null"
  if said = [] then s!"{command} exited with code {code}." else String.ofList said

end Probe

/-- What the checks look at. -/
structure Machine where
  /-- The version of the runtime. -/
  runtime : String
  git : Probe
  disk : Disk
  /-- A path that exists can be written to. -/
  writable : List String → Bool

/-- The outcome of a check. -/
inductive Verdict where
  | pass
  | warn
  | fail
  deriving DecidableEq, Repr

namespace Verdict

def text : Verdict → String
  | pass => "pass"
  | warn => "warn"
  | fail => "fail"

/-- The mark in front of a check in a report. -/
def mark : Verdict → String
  | pass => "[OK]"
  | warn => "[!]"
  | fail => "[X]"

end Verdict

/-- A requirement, what was found, and the outcome. -/
structure Check where
  id : String
  name : String
  requirement : String
  value : String
  verdict : Verdict
  message : Option String := none
  deriving DecidableEq, Repr

namespace Check

def minimumRuntime : String := "20.0.0"

/-- The first git that can name the branch of a new repository. -/
def minimumGit : String := "2.28.0"

/-- The version of the runtime. -/
def runtime (version : String) : Check :=
  let base : Check :=
    ⟨"node", "Node.js", s!">= {minimumRuntime}", s!"v{version}", .pass, none⟩
  if Version.isAtLeast version minimumRuntime then base
  else { base with verdict := .fail, message := some s!"Node.js {minimumRuntime}+ is required." }

/-- The version of git, which must answer. -/
def git (probe : Probe) : Check :=
  let version := Version.find? probe.stdout
  let base : Check := ⟨"git", "git", s!">= {minimumGit}", version.getD "--", .pass, none⟩
  let recent := match version with
    | some v => Version.isAtLeast (String.ofList (v.toList.drop 1)) minimumGit
    | none => false
  if probe.exit ≠ some 0 then
    { base with verdict := .fail, message := some (probe.complaint "git") }
  else if recent then base
  else
    { base with
      verdict := .warn
      message := some s!"git {minimumGit}+ is recommended for --initial-branch support." }

/-- The tables that repositories are drawn from. -/
def corpus : Check where
  id := "corpus"
  name := "Corpus data"
  requirement := "bundled"
  value := s!"{Decimal.natText Corpus.bundled.categories.length} categories"
  verdict := .pass

/-- The output directory. One that does not exist would be made where its nearest ancestor is. -/
def output (machine : Machine) (path : String) : Check :=
  let base : Check := ⟨"output", "Output dir", "writable", path, .pass, none⟩
  let target := (machine.disk.nearest (Path.segments path).reverse []).1
  if machine.writable target then base
  else
    { base with
      verdict := .fail
      message := some ("/" ++ Text.join "/" target ++ " is not writable.") }

/-- The four checks of a machine for an output directory. -/
def all (machine : Machine) (path : String) : List Check :=
  [runtime machine.runtime, git machine.git, corpus, output machine path]

/-- The plain form of a check. -/
def toValue (c : Check) : Value :=
  .object ([("id", .string c.id), ("name", .string c.name), ("requirement", .string c.requirement),
    ("value", .string c.value), ("status", .string c.verdict.text)]
    ++ (c.message.map fun m => ("message", Value.string m)).toList)

/-- No check fails. -/
def allPassed (checks : List Check) : Bool := checks.all fun c => c.verdict ≠ .fail

end Check

end CorpusForge
