import CorpusForge.Failure
import CorpusForge.Structure.Layout

/-!
# The catalog of artifacts

Besides its sources a repository gets files that are rendered from templates: the same few for
every repository, the manifests of the language's toolchain, and, for archetypes with
infrastructure, descriptions of containers and their deployment.

Toolchains are looked up in a record by the name of the language, where names that every record
inherits are found as well, but are no toolchains.

* `Toolchain.of?`: the toolchain of a language;
* `Artifact.list`: the artifacts of a repository, in order;
* `Artifact.template?`: the template that a file is rendered from.
-/

namespace CorpusForge

/-- A file and the template that it is rendered from. -/
structure Artifact where
  path : String
  template : String
  deriving DecidableEq, Repr

/-- How the projects of a language are installed, tested and built. -/
structure Toolchain where
  label : String
  installCommand : String
  testCommand : String
  buildCommand : String
  manifests : List Artifact
  deriving DecidableEq, Repr

/-- A file of a repository that is to be written. -/
structure ManifestEntry where
  path : String
  role : Role
  targetLines : Int
  language : String
  kind : FileKind
  deriving DecidableEq, Repr

namespace Toolchain

def node : Toolchain where
  label := "JavaScript"
  installCommand := "npm install"
  testCommand := "npm test"
  buildCommand := "npm run build"
  manifests := [⟨"package.json", "package.json.tmpl"⟩]

def python : Toolchain where
  label := "Python"
  installCommand := "pip install -r requirements.txt"
  testCommand := "pytest"
  buildCommand := "python -m compileall ."
  manifests := [⟨"setup.py", "setup.py.tmpl"⟩, ⟨"requirements.txt", "requirements.txt.tmpl"⟩]

def java : Toolchain where
  label := "Java"
  installCommand := "mvn -B install -DskipTests"
  testCommand := "mvn -B test"
  buildCommand := "mvn -B package"
  manifests := [⟨"pom.xml", "pom.xml.tmpl"⟩]

def go : Toolchain where
  label := "Go"
  installCommand := "go mod download"
  testCommand := "go test ./..."
  buildCommand := "go build ./..."
  manifests := [⟨"go.mod", "go.mod.tmpl"⟩]

def rust : Toolchain where
  label := "Rust"
  installCommand := "cargo fetch"
  testCommand := "cargo test"
  buildCommand := "cargo build --release"
  manifests := [⟨"Cargo.toml", "Cargo.toml.tmpl"⟩]

def ruby : Toolchain where
  label := "Ruby"
  installCommand := "bundle install"
  testCommand := "bundle exec rspec"
  buildCommand := "bundle exec rake build"
  manifests := [⟨"Gemfile", "Gemfile.tmpl"⟩]

def php : Toolchain where
  label := "PHP"
  installCommand := "composer install"
  testCommand := "composer test"
  buildCommand := "composer dump-autoload --optimize"
  manifests := [⟨"composer.json", "composer.json.tmpl"⟩]

def csharp : Toolchain where
  label := "C#"
  installCommand := "dotnet restore"
  testCommand := "dotnet test"
  buildCommand := "dotnet build"
  manifests := [⟨"App.csproj", "App.csproj.tmpl"⟩]

/-- The toolchains by language. -/
def table : List (String × Toolchain) :=
  [("python", python), ("javascript", node), ("typescript", { node with label := "TypeScript" }),
   ("java", java), ("go", go), ("rust", rust), ("ruby", ruby), ("php", php), ("csharp", csharp)]

/-- The toolchain of a language that has none of its own. -/
def fallback : Toolchain := { node with label := "mixed languages", manifests := [] }

/-- The toolchain of a language; a name that every record inherits has none. -/
def of? (language : String) : Option Toolchain :=
  match table.find? fun (name, _) => name == language with
  | some (_, toolchain) => some toolchain
  | none => if Fields.isInherited language then none else some fallback

end Toolchain

namespace Artifact

/-- The files of the first commit, in the order in which they are staged. -/
def bootstrapFiles : List String := [".gitignore", "README.md"]

/-- The artifacts of every repository. -/
def common : List Artifact :=
  [⟨".gitignore", "gitignore.tmpl"⟩, ⟨"README.md", "README.md.tmpl"⟩,
   ⟨"LICENSE", "LICENSE.tmpl"⟩, ⟨".github/workflows/ci.yml", "ci.yml.tmpl"⟩]

/-- The container description of a language. -/
def dockerfile (language : String) : Artifact :=
  ⟨"Dockerfile", if language = "python" then "Dockerfile.python.tmpl" else "Dockerfile.node.tmpl"⟩

/-- The descriptions of deployment. -/
def infrastructure : List Artifact :=
  [⟨"docker-compose.yml", "docker-compose.yml.tmpl"⟩,
   ⟨"infrastructure/k8s/deployment.yaml", "k8s-deployment.yaml.tmpl"⟩,
   ⟨"infrastructure/k8s/service.yaml", "k8s-service.yaml.tmpl"⟩,
   ⟨"infrastructure/terraform/main.tf", "main.tf.tmpl"⟩]

/-- The artifacts of a repository whose language has a toolchain, in order. -/
def listWith (toolchain : Toolchain) (language : String) (archetype : Archetype) : List Artifact :=
  common ++ toolchain.manifests
    ++ if archetype.hasInfrastructure then dockerfile language :: infrastructure else []

/-- The artifacts of a repository, in order. -/
def list (language : String) (archetype : Archetype) : Except Misuse (List Artifact) :=
  match Toolchain.of? language with
  | some toolchain => .ok (listWith toolchain language archetype)
  | none => .error .noManifests

/-- The manifest entry of an artifact. -/
def entry (language : String) (a : Artifact) : ManifestEntry :=
  ⟨a.path, .artifact, 0, language, .artifact⟩

/-- The manifest entries of a repository's artifacts. -/
def entries (language : String) (archetype : Archetype) : Except Misuse (List ManifestEntry) :=
  (list language archetype).map (List.map (entry language))

/-- The template of a file, if there is one: that of the migrations, or the one listed for its
    path. -/
def template? (path : String) (role : Role) (language : String) (archetype : Archetype) :
    Except Misuse (Option String) :=
  if role = .migration then .ok (some "migration.sql.tmpl")
  else (list language archetype).map fun artifacts =>
    (artifacts.find? fun a => a.path == path).map Artifact.template

end Artifact

end CorpusForge
