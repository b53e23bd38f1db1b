import CorpusForge.Artifact.Catalog
import CorpusForge.Artifact.Templates
import CorpusForge.Failure
import CorpusForge.Path
import CorpusForge.Text.Reference

/-!
# Rendering artifacts

A template names values as `\x7b\x7bname\x7d\x7d`. Rendering puts the values in, once and
verbatim; a name without a value is a failure. A template that was read once is kept, so every
later rendering uses the same text (`Shelf`).

* `Artifact.value?`: the values that a template may name;
* `Artifact.fill`: a template with its values put in;
* `Artifact.render`: the text of a file, and the templates kept after it.
-/

namespace CorpusForge

/-- Where templates are read from. -/
structure Shelf where
  /-- The directory, as failures name it. -/
  dir : String
  /-- The content of a file there. -/
  read : String → Option String

/-- The templates read so far. -/
abbrev Kept := List (String × String)

/-- What an artifact is rendered for. The year is not a number when the first day of the history lies
    outside the calendar. -/
structure RenderContext where
  spec : Spec
  archetype : Archetype
  year : Number

namespace Failure

/-- No template is known for a file. -/
def artifactUnknown (path : String) (role : Role) : Failure where
  code := .artifactUnknown
  severity := .recoverable
  message := s!"No template is registered for {path}"
  context := some [("path", .string path), ("role", .string role.text)]

/-- A template cannot be read. -/
def templateMissing (dir name : String) : Failure where
  code := .templateMissing
  severity := .recoverable
  message := s!"Cannot read template {name}"
  context := some [("templatesDir", .string dir)]

/-- A template names a value that does not exist. -/
def placeholderUnknown (template name : String) : Failure where
  code := .placeholderUnknown
  severity := .recoverable
  message := s!"Template {template} references unknown placeholder " ++
    "\x7b\x7b" ++ name ++ "\x7d\x7d"
  context := some [("template", .string template), ("placeholder", .string name)]

end Failure

/-- A placeholder: a name of letters and digits between doubled braces. -/
def placeholderStyle : ReferenceStyle where
  opening := ['\x7b', '\x7b']
  closing := ['\x7d', '\x7d']
  leads := Text.isLetter
  follows c := Text.isLetter c || Text.isDigit c

namespace Artifact

/-- The tables that migrations create in turn. -/
def migrationTables : List String :=
  ["users", "accounts", "orders", "invoices", "products", "sessions", "audit_logs", "settings",
   "notifications", "payments"]

/-- The number of a migration: the digits of its file name; zero without any, or when they are
    too many for a finite number. -/
def migrationNumber (path : String) : Int :=
  let digits := (Path.basename path).toList.filter Text.isDigit
  ((Decimal.mk (Text.digitsValue digits) 0).toNumber false).toInt

/-- The name of a database, from that of its repository. -/
def databaseName (repository : String) : String :=
  String.ofList (repository.toList.map fun c => if c = '-' then '_' else c)

/-- The text of a function of the language. -/
def nativeText (name : String) : String := "function " ++ name ++ "() \x7b [native code] \x7d"

/-- The values that a template may name, for the file at `path`. A name that every record inherits
    has a value as well: the text of what is inherited, where the constructor shows the name of the
    record's kind. -/
def value? (path : String) (context : RenderContext) (name : String) : Option String :=
  let spec := context.spec
  let toolchain := Toolchain.of? spec.language
  let migration := migrationNumber path
  match name with
  | "repoName" => some spec.name
  | "template" => spec.template
  | "archetype" => some context.archetype.text
  | "languageLabel" => toolchain.map Toolchain.label
  | "installCommand" => toolchain.map Toolchain.installCommand
  | "testCommand" => toolchain.map Toolchain.testCommand
  | "buildCommand" => toolchain.map Toolchain.buildCommand
  | "targetLines" => some spec.targetLines.text
  | "year" => some context.year.text
  | "databaseName" => some (databaseName spec.name)
  | "migrationId" =>
    some (String.ofList (Text.padLeft 3 '0' (Number.intText migration).toList))
  | "table" => migrationTables[(migration % 10).toNat]?
  | "constructor" => some (nativeText "Object")
  | _ => if Fields.isInherited name then some (nativeText name) else none

/-- A template with its values put in. -/
def fill (template path : String) (context : RenderContext) (text : String) :
    Except Failure String :=
  match placeholderStyle.expand (value? path context) text with
  | .ok filled => .ok filled
  | .error name => .error (.placeholderUnknown template name)

/-- The text of a template: the one kept, or else the file's, which is kept from then on. Looking the
    template up, reading it and keeping it are one step here; where renderings overlap, each of them
    may read a template that none has kept yet. -/
def fetch (shelf : Shelf) (template : String) (kept : Kept) : Except Failure String × Kept :=
  match kept.find? fun (name, _) => name == template with
  | some (_, text) => (.ok text, kept)
  | none =>
    match shelf.read template with
    | some text => (.ok text, (template, text) :: kept)
    | none => (.error (.templateMissing shelf.dir template), kept)

/-- The text of an artifact, and the templates kept after it. -/
def render (shelf : Shelf) (path : String) (role : Role) (context : RenderContext)
    (kept : Kept) : Except Mishap String × Kept :=
  match template? path role context.spec.language context.archetype with
  | .error misuse => (.error (.misuse misuse), kept)
  | .ok none => (.error (.failure (.artifactUnknown path role)), kept)
  | .ok (some template) =>
    match fetch shelf template kept with
    | (.ok text, kept) => ((fill template path context text).mapError .failure, kept)
    | (.error failure, kept) => (.error (.failure failure), kept)

end Artifact

/-- The bundled templates. -/
def Shelf.bundled : Shelf where
  dir := "templates"
  read name := (Template.bundled.find? fun (key, _) => key == name).map Prod.snd

end CorpusForge
