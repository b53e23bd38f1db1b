import CorpusForge.Random.Drawing
import CorpusForge.Spec
import CorpusForge.Structure.Archetype

/-!
# Layouts

A `Layout` lists the directories of a repository and the groups of source files in them: how many
files a group has, how they are named and how long they are. Counts and lengths are fixed or drawn
from a range.

* `Layout.of`: the layout of an archetype for a specification;
* `serviceName`: the names of the services of a mesh, a rotation numbered from its second round.
-/

namespace CorpusForge

/-- What a file is for. -/
inductive Role where
  | appEntry | index | component | page | util | api | test
  | serviceMain | handler | model | repository
  | cliMain | command | config
  | libraryCore | part | demo
  | view | activity | gameScript
  | pipeline | transform
  | backend | frontend | migration
  | artifact
  deriving DecidableEq, Repr

namespace Role

def all : List Role :=
  [appEntry, index, component, page, util, api, test, serviceMain, handler, model, repository,
   cliMain, command, config, libraryCore, part, demo, view, activity, gameScript, pipeline,
   transform, backend, frontend, migration, artifact]

def text : Role → String
  | appEntry => "app_entry"
  | index => "index"
  | component => "component"
  | page => "page"
  | util => "util"
  | api => "api"
  | test => "test"
  | serviceMain => "service_main"
  | handler => "handler"
  | model => "model"
  | repository => "repository"
  | cliMain => "cli_main"
  | command => "command"
  | config => "config"
  | libraryCore => "library_core"
  | part => "module"
  | demo => "example"
  | view => "view"
  | activity => "activity"
  | gameScript => "game_script"
  | pipeline => "pipeline"
  | transform => "transform"
  | backend => "backend"
  | frontend => "frontend"
  | migration => "migration"
  | artifact => "artifact"

def ofText? (text : String) : Option Role := all.find? fun role => role.text == text

end Role

/-- Whether a file is source code or rendered from a template. -/
inductive FileKind where
  | source
  | artifact
  deriving DecidableEq, Repr

namespace FileKind

def text : FileKind → String
  | source => "source"
  | artifact => "artifact"

end FileKind

/-- A fixed number, or one drawn from an inclusive range. -/
inductive Amount where
  | fixed (value : Nat)
  | range (low high : Nat) (ordered : low ≤ high := by decide)
  deriving DecidableEq, Repr

namespace Amount

/-- The number itself, or a draw from the range. -/
def draw {ε : Type} : Amount → Drawing ε Int
  | fixed value => pure value
  | range low high _ => Drawing.within low high

end Amount

/-- How the files of a group are named. -/
inductive Stem where
  /-- All files have one name. -/
  | named (name : String)
  /-- A name and the number of the file, padded to a width. -/
  | numbered (name : String) (width : Nat)
  deriving DecidableEq, Repr

namespace Stem

/-- The name of the file with the given number. -/
def name : Stem → Number → String
  | named name, _ => name
  | numbered name width, index =>
    name ++ String.ofList (Text.padLeft width '0' index.text.toList)

end Stem

/-- A language that a group is written in whatever the language of the repository. -/
structure PinnedLanguage where
  name : String
  extension : String
  deriving DecidableEq, Repr

/-- Files of one role in one directory. -/
structure FileGroup where
  dir : String
  stem : Stem
  role : Role
  count : Amount
  lines : Amount
  language : Option PinnedLanguage := none
  kind : Option FileKind := none
  deriving DecidableEq, Repr

/-- The directories and the source files of a repository. -/
structure Layout where
  directories : List String
  groups : List FileGroup
  deriving DecidableEq, Repr

/-! ### Services -/

/-- The names that services take in turn. -/
def serviceRotation : List String :=
  ["auth", "user", "product", "order", "payment", "inventory", "notification", "analytics",
   "search", "recommendation"]

/-- The name of a service: the rotation's own names first, then the names with the number of the
    round behind them. -/
def serviceName (index : Nat) : String :=
  let base := (serviceRotation[index % serviceRotation.length]?).getD ""
  let round := index / serviceRotation.length
  if round = 0 then base else base ++ "-" ++ Decimal.natText round

/-- The name at any index. An index without a name in the rotation still has its round. -/
def serviceName? (index : Number) : Option String :=
  let position := index % .ofNat serviceRotation.length
  let base := if position.isInteger && (Number.le 0 position) then
    serviceRotation[position.steps]? else none
  let round := (index / .ofNat serviceRotation.length).floor
  if Number.lt 0 round then some (base.getD "undefined" ++ "-" ++ round.text) else base

/-- The number of services of a mesh, which the name of its category tells. -/
def serviceCount (category : String) : Nat :=
  if Text.hasWord category "small" then 10
  else if Text.hasWord category "medium" then 50
  else 100

namespace Layout

def swift : PinnedLanguage := ⟨"swift", ".swift"⟩
def kotlin : PinnedLanguage := ⟨"kotlin", ".kt"⟩
def csharp : PinnedLanguage := ⟨"csharp", ".cs"⟩
def sql : PinnedLanguage := ⟨"sql", ".sql"⟩

/-- A single file. -/
def single (dir name : String) (role : Role) (lines : Nat) : FileGroup :=
  { dir, stem := .named name, role, count := .fixed 1, lines := .fixed lines }

/-- Numbered files. -/
def many (dir name : String) (role : Role) (count lines : Amount) : FileGroup :=
  { dir, stem := .numbered name 0, role, count, lines }

def webApp : Layout where
  directories :=
    ["src/components", "src/pages", "src/utils", "src/api", "src/models", "src/services",
     "tests/unit", "tests/integration", "tests/e2e", "config", "public", "static"]
  groups :=
    [single "src" "app" .appEntry 500,
     single "src" "index" .index 50,
     many "src/components" "Component" .component (.range 10 30) (.range 50 300),
     many "src/pages" "Page" .page (.range 5 15) (.range 100 500),
     many "src/utils" "util" .util (.range 5 15) (.range 50 200),
     many "src/api" "api" .api (.range 5 15) (.range 100 300),
     many "tests/unit" "test" .test (.range 20 60) (.range 50 200)]

/-- The directories of the gateway and the services of a mesh. -/
def serviceRoots (category : String) : List String :=
  "api-gateway" :: (List.range (serviceCount category)).map fun i => "services/" ++ serviceName i

/-- The source files of one service. -/
def serviceGroups (root : String) : List FileGroup :=
  [single (root ++ "/src") "main" .serviceMain 200,
   single (root ++ "/src") "handlers" .handler 300,
   single (root ++ "/src") "models" .model 150,
   single (root ++ "/src") "repository" .repository 200,
   many (root ++ "/tests") "test" .test (.range 5 15) (.range 50 150)]

def serviceMesh (category : String) : Layout where
  directories :=
    (serviceRoots category).flatMap (fun root => [root ++ "/src", root ++ "/tests",
      root ++ "/config"])
    ++ ["shared/models", "shared/utils", "infrastructure"]
  groups := (serviceRoots category).flatMap serviceGroups

def cliTool : Layout where
  directories := ["cmd", "internal", "pkg", "tests"]
  groups :=
    [single "cmd" "main" .cliMain 300,
     single "internal" "commands" .command 500,
     single "internal" "config" .config 150,
     single "pkg" "utils" .util 200,
     many "tests" "test" .test (.range 10 30) (.range 50 150)]

def library : Layout where
  directories := ["src", "tests", "examples", "docs", "benchmarks"]
  groups :=
    [single "src" "core" .libraryCore 1000,
     many "src" "module" .part (.range 10 30) (.range 100 500),
     many "tests" "test" .test (.range 20 60) (.range 50 200),
     many "examples" "example" .demo (.range 5 10) (.range 50 150)]

def iosApp : Layout where
  directories := ["Sources", "Tests", "Resources"]
  groups :=
    [{ many "Sources" "View" .view (.range 10 30) (.range 50 200) with language := some swift },
     { many "Tests" "Test" .test (.range 10 20) (.range 50 150) with language := some swift }]

def androidApp : Layout where
  directories := ["app/src/main/java", "app/src/test/java", "app/src/main/res"]
  groups :=
    [{ many "app/src/main/java/com/example/app" "Activity" .activity (.range 10 30)
        (.range 50 200) with language := some kotlin },
     { many "app/src/test/java/com/example/app" "Test" .test (.range 10 20)
        (.range 50 150) with language := some kotlin }]

def game : Layout where
  directories :=
    ["Assets/Scripts", "Assets/Scenes", "Assets/Prefabs", "Assets/Materials", "Tests"]
  groups :=
    [{ many "Assets/Scripts" "Script" .gameScript (.range 20 50) (.range 50 300)
        with language := some csharp }]

def dataPipeline : Layout where
  directories := ["pipelines", "transformations", "models", "schemas", "tests", "config"]
  groups :=
    [many "pipelines" "pipeline" .pipeline (.range 5 15) (.range 200 600),
     many "transformations" "transform" .transform (.range 10 20) (.range 100 300)]

/-- The database migrations of an enterprise application. -/
def migrations : FileGroup where
  dir := "database/migrations"
  stem := .numbered "migration" 3
  role := .migration
  count := .range 10 30
  lines := .fixed 0
  language := some sql
  kind := some .artifact

def enterpriseApp : Layout where
  directories :=
    ["backend/src", "backend/tests", "frontend/src", "frontend/tests", "database/migrations",
     "docs", "infrastructure"]
  groups :=
    [many "backend/src" "module" .backend (.range 20 50) (.range 100 500),
     many "frontend/src" "component" .frontend (.range 20 50) (.range 100 400),
     migrations]

/-- The layout of an archetype. A mesh has as many services as its category says, and a mobile
    application is one of two platforms. -/
def of (archetype : Archetype) (category : String) : Layout :=
  match archetype with
  | .webApp => webApp
  | .serviceMesh => serviceMesh category
  | .cliTool => cliTool
  | .library => library
  | .mobileApp => if Text.hasWord category "ios" then iosApp else androidApp
  | .game => game
  | .dataPipeline => dataPipeline
  | .enterpriseApp => enterpriseApp

end Layout

end CorpusForge
