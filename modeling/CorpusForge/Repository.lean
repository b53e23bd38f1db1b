import CorpusForge.Source.Synthesis
import CorpusForge.Structure.Plan
import CorpusForge.Work

/-!
# Making a repository

A repository is made in three stages. Its structure is planned and its directories are made; every
file of the manifest is written, sources synthesised and artifacts rendered; then its history is
planned and replayed. A failure ends the making where it happens, and what was made stays. Where the
replay itself fails, its commits stay too, but none of them is counted.

The making is a work (`Repository.work`), which gives the outcome and has no other way to fail;
`Repository.make` does it at once on a host.
-/

namespace CorpusForge

/-- The settings that all repositories of a run share. The time, from which histories are dated, and
    the files of the shelf stay the same as long as the run lasts. -/
structure Workshop where
  languages : List Language
  timeline : Timeline
  faultInjection : FaultInjection
  now : Timestamp
  shelf : Shelf
  registry : Source.Registry := .default

/-- What the making of a repository has for itself: its generator, and the faults so far. -/
structure Draft where
  gen : Gen
  faults : Nat := 0

/-- What changes while a repository is made at once. -/
structure Bench (σ : Type) where
  gen : Gen
  kept : Kept
  faults : Nat
  host : σ

/-- The outcome of making a repository. -/
structure Repository where
  spec : Spec
  path : String
  archetype : Option Archetype
  manifest : List ManifestEntry
  commits : List Commit
  status : Status
  commitsApplied : Nat
  faultsInjected : Nat
  error : Option Failure

/-- A stage of the making: it works on the draft and may fail. -/
abbrev Making := ExceptT Mishap (StateT Draft Work)

namespace Failure

/-- A directory cannot be made. -/
def directoryRefused (repository path : String) (cause : Foreign) : Failure where
  code := .directoryRefused
  severity := .recoverable
  message := s!"Cannot create directory {path}"
  context := some [("repo", .string repository), ("path", .string path)]
  cause := some cause

/-- A file cannot be written. -/
def writeRefused (name path : String) (cause : Foreign) : Failure where
  code := .writeRefused
  severity := .recoverable
  message := s!"Cannot write {name}"
  context := some [("path", .string path)]
  cause := some cause

end Failure

namespace Making

variable {α ε : Type}

/-- Draws from the generator of the draft. -/
def draw (wrap : ε → Mishap) (d : Drawing ε α) : Making α := fun draft =>
  match d.run draft.gen with
  | (.ok a, gen) => pure (.ok a, { draft with gen })
  | (.error e, gen) => pure (.error (wrap e), { draft with gen })

/-- Asks a request. What comes back is the answer as `receive` takes it. -/
def ask (request : Request) (receive : request.Answer → Except Mishap α) : Making α := fun draft =>
  .ask request fun answer => .done (receive answer, draft)

/-- Counts faults. -/
def addFaults (n : Nat) : Making Unit := fun draft =>
  pure (.ok (), { draft with faults := draft.faults + n })

/-- A directory of the repository. -/
def makeDir (spec : Spec) (target : String) : Making Unit :=
  ask (.makeDirs target)
    (Except.mapError fun cause => .failure (.directoryRefused spec.name target cause))

/-- A file of the repository, and the directory that holds it. -/
def writeFile (path : String) (name text : String) : Making Unit :=
  let target := Path.join [path, name]
  let refused (cause : Foreign) : Mishap := .failure (.writeRefused name target cause)
  do
    ask (.makeDirs (Path.dirname target)) (Except.mapError refused)
    ask (.writeFile target text) (Except.mapError refused)

/-- Directories of the repository, one after the other. -/
def makeAll (spec : Spec) (path : String) : List String → Making Unit
  | [] => pure ()
  | dir :: rest => do
    makeDir spec (Path.join [path, dir])
    makeAll spec path rest

/-- Plans the structure of a repository and makes its directories. -/
def laying (languages : List Language) (spec : Spec) (path : String) : Making Structure := do
  let structured ← draw id (Structure.plan spec languages)
  makeAll spec path ("" :: structured.directories)
  return structured

/-- The text of a file. -/
def content (shop : Workshop) (context : RenderContext) (entry : ManifestEntry) : Making String :=
  match entry.kind with
  | .artifact =>
    ask (.render shop.shelf entry.path entry.role context) id
  | .source => do
    let file ← draw .refusal (Source.synthesize shop.registry
      ⟨entry.language, entry.role.text, .ofInt entry.targetLines⟩ shop.faultInjection)
    addFaults file.faultsInjected
    return file.text

/-- Writes the files of a manifest, one after the other. -/
def writeAll (shop : Workshop) (context : RenderContext) (path : String) :
    List ManifestEntry → Making Unit
  | [] => pure ()
  | entry :: rest => do
    let text ← content shop context entry
    writeFile path entry.path text
    writeAll shop context path rest

/-- What the history of a repository is planned from. -/
def scheduleInput (shop : Workshop) (spec : Spec) (structured : Structure) : Schedule.Input where
  files := structured.manifest.map ManifestEntry.path
  bootstrapFiles := Artifact.bootstrapFiles
  targetCommits := spec.targetCommits
  contributors := spec.contributors
  now := shop.now
  timeline := shop.timeline

/-- Writes all files and plans the history. -/
def filling (shop : Workshop) (spec : Spec) (path : String) (structured : Structure) :
    Making (List Commit) := do
  let start := Timestamp.bootstrap shop.now shop.timeline.spanDays
  writeAll shop ⟨spec, structured.archetype, (start.year.map .ofInt).getD .nan⟩ path
    structured.manifest
  draw .refusal (Schedule.plan (scheduleInput shop spec structured))

/-- Does a stage at once on a host. -/
def perform {σ : Type} (host : Host σ) (making : Making α) (bench : Bench σ) :
    Except Mishap α × Bench σ :=
  let ((result, draft), s) :=
    Work.perform host (making ⟨bench.gen, bench.faults⟩) ⟨bench.kept, bench.host⟩
  (result, ⟨draft.gen, s.kept, draft.faults, s.host⟩)

/-- Lays a repository out at once. -/
def layOut {σ : Type} (host : Host σ) (languages : List Language) (spec : Spec) (path : String) :
    Bench σ → Except Mishap Structure × Bench σ :=
  perform host (laying languages spec path)

end Making

namespace Repository

/-- The outcome when something was thrown and no replay was reported. -/
def failed (spec : Spec) (path : String) (structured : Option Structure) (faults : Nat)
    (mishap : Mishap) : Repository where
  spec := spec
  path := path
  archetype := structured.map Structure.archetype
  manifest := (structured.map Structure.manifest).getD []
  commits := []
  status := .failed
  commitsApplied := 0
  faultsInjected := faults
  error := some mishap.normalize

/-- The outcome of a replayed history. -/
def replayed (spec : Spec) (path : String) (structured : Structure) (commits : List Commit)
    (faults : Nat) (replay : Replay) : Repository where
  spec := spec
  path := path
  archetype := some structured.archetype
  manifest := structured.manifest
  commits := commits
  status := replay.status
  commitsApplied := replay.commitsApplied
  faultsInjected := faults
  error := replay.error

/-- The outcome of a repository whose history was replayed, unless the replay failed itself. -/
def concluded (spec : Spec) (path : String) (structured : Structure) (commits : List Commit)
    (faults : Nat) : Except Misuse Replay → Repository
  | .ok replay => replayed spec path structured commits faults replay
  | .error misuse => failed spec path (some structured) faults (.misuse misuse)

/-- The work of replaying a history. -/
def replaying (path : String) (commits : List Commit) : Work (Except Misuse Replay) := do
  let ended ← Replay.run (fun c => .ask (.call path c) .done) 0 (Call.history commits)
  return Replay.outcome ended

/-- The work of making the repository of a specification in a directory. -/
def work (shop : Workshop) (spec : Spec) (path : String) (draft : Draft) :
    Work (Repository × Draft) := do
  match ← Making.laying shop.languages spec path draft with
  | (.error mishap, draft) => return (failed spec path none draft.faults mishap, draft)
  | (.ok structured, draft) =>
    match ← Making.filling shop spec path structured draft with
    | (.error mishap, draft) =>
      return (failed spec path (some structured) draft.faults mishap, draft)
    | (.ok commits, draft) =>
      let replay ← replaying path commits
      return (concluded spec path structured commits draft.faults replay, draft)

/-- Makes the repository of a specification in a directory, at once on a host. -/
def make {σ : Type} (host : Host σ) (shop : Workshop) (spec : Spec) (path : String)
    (bench : Bench σ) : Repository × Bench σ :=
  let ((repository, draft), s) :=
    (work shop spec path ⟨bench.gen, bench.faults⟩).perform host ⟨bench.kept, bench.host⟩
  (repository, ⟨draft.gen, s.kept, draft.faults, s.host⟩)

end Repository

end CorpusForge
