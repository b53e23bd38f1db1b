import CorpusForge.Value.Basic

/-!
# Configuration

The settings of a run: how many repositories to make and where, the tables they are drawn from
(categories, languages, contributors), the ranges of their sizes, the timeline of their histories
and the rate of deliberate faults.

`Config.toValue` gives the plain form of a configuration, with the fields in their declared order.
-/

namespace CorpusForge

/-- Who commits. -/
structure Contributor where
  name : String
  email : String
  deriving DecidableEq, Repr, Inhabited

/-- A kind of repository: how many of them, and the project templates they rotate through. -/
structure Category where
  name : String
  count : Number
  templates : List String
  deriving DecidableEq, Repr

/-- A language, its share of the repositories, and its file extensions. -/
structure Language where
  name : String
  weight : Number
  extensions : List String
  deriving DecidableEq

/-- An inclusive range of whole numbers. -/
structure Range where
  low : Number
  high : Number
  deriving DecidableEq, Repr

/-- The sizes that a repository may have. -/
structure Ranges where
  lines : Range := ⟨1000, 50000⟩
  commits : Range := ⟨100, 500⟩
  maxContributors : Number := 5
  deriving DecidableEq, Repr

/-- The span of a history and the gaps between its commits. -/
structure Timeline where
  spanDays : Number := 365
  minGapHours : Number := 1
  maxGapHours : Number := 48
  deriving DecidableEq, Repr

/-- Whether units get deliberate faults, and how often. -/
structure FaultInjection where
  enabled : Bool := true
  probability : Number := .ofRat (1 / 10)
  deriving DecidableEq

/-- What the draws of a run start from. -/
inductive Seed where
  | text (text : String)
  | number (number : Number)
  deriving DecidableEq

/-- The tables that repositories are drawn from. -/
structure Corpus where
  categories : List Category
  languages : List Language
  contributors : List Contributor
  deriving DecidableEq

/-- The settings of a run. -/
structure Config where
  outputDir : String
  targetCount : Number
  startIndex : Number
  seed : Option Seed
  concurrency : Number
  skipExisting : Bool
  ranges : Ranges
  timeline : Timeline
  faultInjection : FaultInjection
  categories : List Category
  languages : List Language
  contributors : List Contributor
  deriving DecidableEq

/-- The text of a seed, which is what the draws depend on. -/
def Seed.toText : Seed → String
  | text s => s
  | number n => n.text

/-! ### Plain forms -/

namespace Seed

def toValue : Seed → Value
  | text s => .string s
  | number n => .number n

end Seed

def Contributor.toValue (c : Contributor) : Value :=
  .object [("name", .string c.name), ("email", .string c.email)]

def Category.toValue (c : Category) : Value :=
  .object [("name", .string c.name), ("count", .number c.count), ("templates", .strings c.templates)]

def Language.toValue (l : Language) : Value :=
  .object [("name", .string l.name), ("weight", .number l.weight),
    ("extensions", .strings l.extensions)]

def Range.toValue (r : Range) : Value := .array [.number r.low, .number r.high]

def Ranges.toValue (r : Ranges) : Value :=
  .object [("lines", r.lines.toValue), ("commits", r.commits.toValue),
    ("maxContributors", .number r.maxContributors)]

def Timeline.toValue (t : Timeline) : Value :=
  .object [("spanDays", .number t.spanDays), ("minGapHours", .number t.minGapHours),
    ("maxGapHours", .number t.maxGapHours)]

def FaultInjection.toValue (f : FaultInjection) : Value :=
  .object [("enabled", .bool f.enabled), ("probability", .number f.probability)]

def Corpus.toFields (c : Corpus) : Fields :=
  [("categories", .array (c.categories.map Category.toValue)),
   ("languages", .array (c.languages.map Language.toValue)),
   ("contributors", .array (c.contributors.map Contributor.toValue))]

namespace Config

/-- The fields of a configuration; a seed that was not chosen is left out. -/
def toFields (c : Config) : Fields :=
  [("outputDir", .string c.outputDir), ("targetCount", .number c.targetCount),
   ("startIndex", .number c.startIndex)]
  ++ c.seed.toList.map (fun seed => ("seed", seed.toValue))
  ++ [("concurrency", .number c.concurrency), ("skipExisting", .bool c.skipExisting),
      ("ranges", c.ranges.toValue), ("timeline", c.timeline.toValue),
      ("faultInjection", c.faultInjection.toValue)]
  ++ Corpus.toFields ⟨c.categories, c.languages, c.contributors⟩

def toValue (c : Config) : Value := .object c.toFields

end Config

end CorpusForge
