import CorpusForge.Config.Basic
import CorpusForge.Random.Drawing

/-!
# Repository specifications

A `Spec` says what one repository is to be: its name, its kind, its language, its size and who
works on it. The name joins the repository's number, padded to five places, and its template.
-/

namespace CorpusForge

/-- The directory name of a repository. -/
def repositoryName (id : Number) (template : Option String) : String :=
  "repo-" ++ String.ofList (Text.padLeft 5 '0' id.text.toList) ++ "-" ++ template.getD "undefined"

/-- What one repository is to be. -/
structure Spec where
  id : Number
  name : String
  category : String
  template : Option String
  language : String
  targetLines : Number
  targetCommits : Number
  contributors : List Contributor
  deriving DecidableEq, Repr

/-- The plain form of a specification. -/
def Spec.toValue (s : Spec) : Value :=
  .object ([("id", .number s.id), ("name", .string s.name), ("category", .string s.category)]
    ++ (s.template.map fun template => ("template", Value.string template)).toList
    ++ [("language", .string s.language), ("targetLines", .number s.targetLines),
      ("targetCommits", .number s.targetCommits),
      ("contributorCount", .nat s.contributors.length),
      ("contributors", .array (s.contributors.map Contributor.toValue))])

/-- The generator of one repository under the seed of a run. -/
def Gen.ofRepository (seed : String) (id : Number) : Gen :=
  .ofText (seed ++ ":" ++ id.text)

end CorpusForge
