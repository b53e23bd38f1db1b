import CorpusForge.Failure
import CorpusForge.Path
import CorpusForge.Text.Units
import Std.Data.HashMap

/-!
# Disks

A disk maps paths to files and directories. A path is the list of the names that lead to it from
the root, which is a directory always; every other entry lies in a directory.

* `Disk.makeDirs`: a directory with all those above it;
* `Disk.writeFile`: a file in a directory that exists;
* `Disk.entries`: what a directory holds;
* `Disk.countFiles`: the files below a directory, those of a history apart.

What a disk refuses it refuses with the code of the operating system.
-/

namespace CorpusForge

/-- What stands at a path. -/
inductive Node where
  | file (text : String)
  /-- A directory and, when it was set, the time of its last change in milliseconds. -/
  | directory (modified : Option Int)
  deriving DecidableEq, Repr

namespace Node

def isDirectory : Node → Bool
  | directory _ => true
  | file _ => false

end Node

/-- The files and directories of a disk. -/
structure Disk where
  nodes : Std.HashMap (List String) Node

namespace Disk

/-- A disk that holds the root only. -/
def empty : Disk := ⟨∅⟩

/-- What stands at a path. -/
def node? (disk : Disk) (path : List String) : Option Node :=
  match path with
  | [] => some (.directory none)
  | path => disk.nodes[path]?

/-- Something stands at the path. -/
def exists? (disk : Disk) (path : List String) : Bool := (disk.node? path).isSome

/-- A directory stands at the path. -/
def isDirectory (disk : Disk) (path : List String) : Bool :=
  match disk.node? path with
  | some node => node.isDirectory
  | none => false

/-- A file stands at the path. -/
def isFile (disk : Disk) (path : List String) : Bool :=
  match disk.node? path with
  | some node => !node.isDirectory
  | none => false

/-- The content of a file. -/
def read? (disk : Disk) (path : List String) : Option String :=
  match disk.node? path with
  | some (.file text) => some text
  | _ => none

/-- An error of the operating system. -/
def refuse (code explanation operation path : String) : Foreign :=
  .exception s!"{code}: {explanation}, {operation} '{path}'" (some (.string code))

/-- A name that is longer than an entry may have it. -/
def isLongName (name : String) : Bool := 255 < name.utf8ByteSize

/-- A path, as it is shown, that leads nowhere whatever the disk holds: it is too long as a whole, or
    the zero character is in it. -/
def isBadPath (shown : String) : Bool :=
  4096 ≤ shown.utf8ByteSize || shown.toList.contains '\x00'

/-- The nearest entry at or above a path, and the names that lead on from there to the path, which
    is given with its last name first. -/
def nearest (disk : Disk) :
    (reversed : List String) → (below : List String) → List String × List String
  | [], below => ([], below)
  | name :: above, below =>
    let path := (name :: above).reverse
    if disk.exists? path then (path, below) else nearest disk above (name :: below)

/-- The paths from a path on along names, without the path itself. -/
def ancestry : (above : List String) → List String → List (List String)
  | _, [] => []
  | above, name :: rest => (above ++ [name]) :: ancestry (above ++ [name]) rest

/-- Adds a directory unless something stands there. -/
def addDir (disk : Disk) (path : List String) : Disk :=
  if disk.exists? path then disk else ⟨disk.nodes.insert path (.directory none)⟩

/-- Makes a directory and those above it, up to the first name that is too long. Where a file stands
    in the way nothing is made. -/
def makeDirs (disk : Disk) (path : List String) (shown : String) : Except Foreign Unit × Disk :=
  let tooLong := refuse "ENAMETOOLONG" "name too long" "mkdir" shown
  let (here, missing) := disk.nearest path.reverse []
  if isBadPath shown then (.error tooLong, disk)
  else if disk.isFile here then
    if missing = [] then (.error (refuse "EEXIST" "file already exists" "mkdir" shown), disk)
    else (.error (refuse "ENOTDIR" "not a directory" "mkdir" shown), disk)
  else
    let disk := (ancestry here (missing.takeWhile fun name => !isLongName name)).foldl addDir disk
    if missing.any isLongName then (.error tooLong, disk) else (.ok (), disk)

/-- Writes a file. Its directory must exist, and no directory may stand in its place. -/
def writeFile (disk : Disk) (path : List String) (shown text : String) :
    Except Foreign Unit × Disk :=
  if isBadPath shown || path.any isLongName then
    (.error (refuse "ENAMETOOLONG" "name too long" "open" shown), disk)
  else if disk.isDirectory path || shown.toList.getLast? == some '/' then
    (.error (refuse "EISDIR" "illegal operation on a directory" "open" shown), disk)
  else if !disk.isDirectory path.dropLast then
    (.error (refuse "ENOENT" "no such file or directory" "open" shown), disk)
  else (.ok (), ⟨disk.nodes.insert path (.file text)⟩)

/-- Adds a file with the directories above it, whatever stood there. -/
def place (disk : Disk) (path : List String) (text : String) : Disk :=
  let disk := (ancestry [] path.dropLast).foldl addDir disk
  ⟨disk.nodes.insert path (.file text)⟩

/-- Sets the time of the last change of a directory. -/
def touch (disk : Disk) (path : List String) (ms : Int) : Disk :=
  if disk.isDirectory path then ⟨disk.nodes.insert path (.directory (some ms))⟩ else disk

/-! ### Looking around -/

/-- The way from a directory to an entry below it. -/
def below? : (dir path : List String) → Option (List String)
  | [], [] => none
  | [], path => some path
  | _ :: _, [] => none
  | d :: dir, p :: path => if d = p then below? dir path else none

/-- Everything below a directory: the way from there, and what stands there. -/
def subtree (disk : Disk) (dir : List String) : List (List String × Node) :=
  disk.nodes.toList.filterMap fun (path, node) => (below? dir path).map fun way => (way, node)

/-- What a directory holds: names and entries, in the order of the names. -/
def entries (disk : Disk) (dir : List String) (shown : String) :
    Except Foreign (List (String × Node)) :=
  match disk.node? dir with
  | none =>
    let (here, missing) := disk.nearest dir.reverse []
    if isBadPath shown || missing.head?.any isLongName then
      .error (refuse "ENAMETOOLONG" "name too long" "scandir" shown)
    else if disk.isFile here then .error (refuse "ENOTDIR" "not a directory" "scandir" shown)
    else .error (refuse "ENOENT" "no such file or directory" "scandir" shown)
  | some (.file _) => .error (refuse "ENOTDIR" "not a directory" "scandir" shown)
  | some (.directory _) =>
    let held := (disk.subtree dir).filterMap fun (way, node) =>
      match way with
      | [name] => some (name, node)
      | _ => none
    .ok (held.mergeSort fun a b => !Text.precedes b.1 a.1)

/-- A file counts unless a directory on its way belongs to a history. -/
def isCounted : List String × Node → Bool
  | (way, .file _) => !way.dropLast.contains ".git"
  | (_, .directory _) => false

/-- The number of files below a directory, without those of a history. -/
def countFiles (disk : Disk) (dir : List String) (shown : String) : Except Foreign Nat := do
  let _ ← disk.entries dir shown
  return ((disk.subtree dir).filter isCounted).length

end Disk

end CorpusForge
