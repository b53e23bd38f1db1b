import CorpusForge.Cli.Program
import CorpusForge.Site
import Std.Time.DateTime.Timestamp

/-!
# The executable

The outer layer of the program. It puts what the program may look at on a `Disk` (the configuration
file and the output directory), runs the program, makes what was made there on the real disk, and
prints. No other program can be started from here, so git counts as absent and every call for a
history is refused.
-/

namespace CorpusForge.Session

/-- What the program made on its disk. -/
inductive Deed where
  | madeDirs (path : String)
  | wroteFile (path text : String)

/-- A disk, and what was made on it, the last one first. -/
structure Journal where
  disk : Disk
  deeds : List Deed := []

/-- The answer to a call for a history. -/
def refused (path : String) (c : Call) : Thrown :=
  .failure (.callRefused path c (some (.exception "git cannot be started" (some (.string "ENOENT")))))

/-- A host that keeps what was made. -/
def host : Host Journal where
  makeDirs path j :=
    let (result, disk) := j.disk.makeDirs (Path.segments path) path
    (result, { disk, deeds := .madeDirs path :: j.deeds })
  writeFile path text j :=
    let (result, disk) := j.disk.writeFile (Path.segments path) path text
    match result with
    | .ok _ => (result, { disk, deeds := .wroteFile path text :: j.deeds })
    | .error _ => (result, { j with disk })
  call path c j := (.error (refused path c), j)

/-- Puts everything below a directory on the disk. The texts of files that are not there yet are
    left out. -/
partial def scan (path : String) (disk : Disk) : IO Disk := do
  let here ← IO.currentDir
  let full := here / path
  if !(← full.pathExists) then return disk
  let data ← full.metadata
  match data.type with
  | .dir =>
    let made := (disk.makeDirs (Path.segments path) path).2
    let disk := made.touch (Path.segments path) (data.modified.sec * 1000)
    let mut disk := disk
    for entry in ← full.readDir do
      disk ← scan (path ++ "/" ++ entry.fileName) disk
    return disk
  | _ =>
    if disk.isFile (Path.segments path) then return disk
    return disk.place (Path.segments path) ""

/-- Puts a file with its text on the disk. -/
def readFile (path : String) (disk : Disk) : IO Disk := do
  let here ← IO.currentDir
  let full := here / path
  if !(← full.pathExists) then return disk
  if ← full.isDir then return (disk.makeDirs (Path.segments path) path).2
  return disk.place (Path.segments path) (← IO.FS.readFile full)

/-- Makes a deed on the real disk. -/
def perform : Deed → IO Unit
  | .madeDirs path => do
    try IO.FS.createDirAll path catch _ => pure ()
  | .wroteFile path text => IO.FS.writeFile path text

/-- The variables that texts refer to, with those that their values refer to. -/
def readVariables : (rounds : Nat) → List String → IO Environment
  | 0, _ => return []
  | rounds + 1, texts => do
    let mut env := []
    for text in texts do
      for piece in variableStyle.scan text.toList do
        if let .reference name := piece then
          if let some value ← IO.getEnv (String.ofList name) then
            env := (String.ofList name, value) :: env
    return env ++ (← readVariables rounds (env.map Prod.snd))

/-- The seed of a run for which none is chosen. -/
def drawSeed : IO String := do
  let bytes ← IO.getRandomBytes 4
  return freshSeed (bytes.toList.foldl (fun word byte => word * 256 + byte.toUInt32) 0)

/-- What the program finds: the file with the configuration, and the directory it looks into. -/
def surroundings (args : List String) : IO (Surroundings Journal) := do
  let cwd := (← IO.currentDir).toString
  let invocation := (Invocation.read args).toOption
  let globals := (invocation.map Invocation.globals).getD {}
  let disk ← readFile (Path.resolve cwd globals.config) (Disk.empty.makeDirs (Path.segments cwd) cwd).2
  let source := (disk.read? (Path.segments (Path.resolve cwd globals.config))).getD ""
  let env ← readVariables 3 (source :: args)
  let now := (← Std.Time.Timestamp.now).toMillisecondsSinceUnixEpoch.val
  let freshSeed ← drawSeed
  let found (disk : Disk) : Surroundings Journal :=
    { cwd, env, machine := ⟨"", .absent, disk, fun _ => true⟩, host, state := { disk }
      found := fun path j => j.disk.exists? (Path.segments path), commits := fun _ => none
      now := Timestamp.date? now, elapsed := fun _ => .ofInt 0, freshSeed }
  match invocation.bind (Program.directory? (found disk)) with
  | some dir => return found (← scan (Path.resolve cwd dir) disk)
  | none => return found disk

end CorpusForge.Session

/-- Runs the program with its arguments. -/
def main (args : List String) : IO UInt32 := do
  let outcome := CorpusForge.Program.run (← CorpusForge.Session.surroundings args) args
  for deed in outcome.state.deeds.reverse do
    CorpusForge.Session.perform deed
  (← IO.getStdout).putStr outcome.stdout
  (← IO.getStderr).putStr outcome.stderr
  return UInt32.ofNat outcome.exit
