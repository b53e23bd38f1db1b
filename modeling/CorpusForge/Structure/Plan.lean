import CorpusForge.Artifact.Catalog
import CorpusForge.Failure
import CorpusForge.Path
import CorpusForge.Text.Units

/-!
# The structure of a repository

`Structure.plan` settles the files and the directories of a repository before anything is
written. The source files come from the groups of the layout, the artifacts follow. No two files
may have one path, and every directory that holds a file is listed.
-/

namespace CorpusForge

/-- The files and directories of a repository. -/
structure Structure where
  archetype : Archetype
  directories : List String
  manifest : List ManifestEntry
  deriving DecidableEq, Repr

/-- Two files would have one path. -/
def Failure.pathConflict (repository path : String) : Failure where
  code := .pathConflict
  severity := .recoverable
  message := s!"Duplicate manifest path {path}"
  context := some [("repo", .string repository), ("path", .string path)]

namespace Structure

/-- The extension of a language: the first one of its table entry, or that of plain text. -/
def extensionFor (language : String) (languages : List Language) : String :=
  ((languages.find? fun l => l.name == language).bind fun l => l.extensions.head?).getD ".txt"

/-- The name of the language of a group. -/
def groupLanguage (group : FileGroup) (spec : Spec) : String :=
  (group.language.map PinnedLanguage.name).getD spec.language

/-- The extension of the files of a group. -/
def groupExtension (group : FileGroup) (spec : Spec) (languages : List Language) : String :=
  (group.language.map PinnedLanguage.extension).getD (extensionFor spec.language languages)

/-- The entries of a group from file number `index` on. The length of each is drawn in turn. -/
def groupEntries {ε : Type} (group : FileGroup) (language extension : String) :
    (files : Nat) → (index : Nat) → Drawing ε (List ManifestEntry)
  | 0, _ => pure []
  | files + 1, index => do
    let lines ← group.lines.draw
    let rest ← groupEntries group language extension files (index + 1)
    return { path := Path.join [group.dir, group.stem.name (.ofNat index) ++ extension]
             role := group.role, targetLines := lines, language
             kind := group.kind.getD .source } :: rest

/-- The entries of a group, whose number is drawn first. -/
def expandGroup {ε : Type} (group : FileGroup) (spec : Spec) (languages : List Language) :
    Drawing ε (List ManifestEntry) := do
  let count ← group.count.draw
  groupEntries group (groupLanguage group spec) (groupExtension group spec languages) count.toNat 0

/-- The entries of several groups, in order. -/
def expandGroups {ε : Type} (spec : Spec) (languages : List Language) :
    List FileGroup → Drawing ε (List ManifestEntry)
  | [] => pure []
  | group :: rest => do
    let entries ← expandGroup group spec languages
    let more ← expandGroups spec languages rest
    return entries ++ more

/-- The first text that occurs a second time; `seen` holds the earlier ones. -/
def firstRepeated (seen : List String) : List String → Option String
  | [] => none
  | path :: rest => if seen.contains path then some path else firstRepeated (path :: seen) rest

/-- The directories of the layout and those that hold a file, each once, in the order of their
    UTF-16 units. -/
def directoriesOf (layout : Layout) (paths : List String) : List String :=
  let holders := (paths.map Path.dirname).filter (· ≠ ".")
  Text.sort (layout.directories ++ holders).eraseDups

/-- The archetype of a repository; one without a template has none. -/
def archetypeOf (spec : Spec) : Drawing Mishap Archetype :=
  match spec.template with
  | some template => pure (.classify spec.category template)
  | none => Drawing.refuse (.misuse .noTemplate)

/-- The manifest entries of a repository's artifacts, when its language has some. -/
def artifactsOf (spec : Spec) (archetype : Archetype) : Drawing Mishap (List ManifestEntry) :=
  match Artifact.entries spec.language archetype with
  | .ok entries => pure entries
  | .error misuse => Drawing.refuse (.misuse misuse)

/-- The structure of the repository that a specification describes. -/
def plan (spec : Spec) (languages : List Language) : Drawing Mishap Structure := do
  let archetype ← archetypeOf spec
  let layout := Layout.of archetype spec.category
  let sources ← expandGroups spec languages layout.groups
  let artifacts ← artifactsOf spec archetype
  let manifest := sources ++ artifacts
  let paths := manifest.map ManifestEntry.path
  match firstRepeated [] paths with
  | some path => Drawing.refuse (.failure (.pathConflict spec.name path))
  | none => return { archetype, directories := directoriesOf layout paths, manifest }

end Structure

end CorpusForge
