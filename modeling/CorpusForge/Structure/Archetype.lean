import CorpusForge.Text.Case
import CorpusForge.Text.Search

/-!
# Archetypes

The archetype of a repository fixes its layout. It is decided by words in the names of the
category and the template: rules are tried in order, the first that matches wins, and letter case
does not matter.
-/

namespace CorpusForge

/-- The shape of a repository. -/
inductive Archetype where
  | webApp
  | serviceMesh
  | cliTool
  | library
  | mobileApp
  | game
  | dataPipeline
  | enterpriseApp
  deriving DecidableEq, Repr

namespace Archetype

def all : List Archetype :=
  [webApp, serviceMesh, cliTool, library, mobileApp, game, dataPipeline, enterpriseApp]

def text : Archetype → String
  | webApp => "web-app"
  | serviceMesh => "service-mesh"
  | cliTool => "cli-tool"
  | library => "library"
  | mobileApp => "mobile-app"
  | game => "game"
  | dataPipeline => "data-pipeline"
  | enterpriseApp => "enterprise-app"

def ofText? (text : String) : Option Archetype := all.find? fun a => a.text == text

/-- The archetypes that some rule leads to, in the order of the rules. -/
def ruled : List Archetype :=
  [webApp, serviceMesh, cliTool, library, mobileApp, game, dataPipeline]

/-- The rule of an archetype for a category and a template. -/
def rule : Archetype → (category template : String) → Bool
  | webApp, category, template =>
    Text.hasWord template "web" || Text.hasWord template "framework"
      || Text.hasWord category "web" || Text.hasWord category "framework"
  | serviceMesh, category, _ => Text.hasWord category "microservice"
  | cliTool, category, _ => Text.hasWord category "cli"
  | library, category, template => Text.hasWord category "lib" || Text.hasWord template "lib"
  | mobileApp, category, _ => Text.hasWord category "mobile"
  | game, category, _ => Text.hasWord category "game"
  | dataPipeline, category, _ => Text.hasWord category "data"
  | enterpriseApp, _, _ => false

/-- The archetypes whose rule matches, in the order of the rules. -/
def candidates (category template : String) : List Archetype :=
  ruled.filter fun a => a.rule category template

/-- The archetype of a category and a template, whatever their letter case. -/
def classify (category template : String) : Archetype :=
  (candidates (Text.lower category) (Text.lower template)).head?.getD enterpriseApp

/-- The archetypes that come with descriptions of containers and their deployment. -/
def hasInfrastructure : Archetype → Bool
  | serviceMesh => true
  | enterpriseApp => true
  | _ => false

end Archetype

end CorpusForge
