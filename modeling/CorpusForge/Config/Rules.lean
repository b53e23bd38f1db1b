import CorpusForge.Config.Corpus
import CorpusForge.Config.Reading

/-!
# The rules of a configuration

How each part of a configuration is read from a plain value: which fields it has, what is filled
in for a missing one, and which limits its values keep.
-/

namespace CorpusForge

/-! ### Scalars -/

/-- A whole number; the limits are checked one by one. -/
def Spot.whole (spot : Spot) (limits : Number → List Defect) : Reading Number :=
  spot.number.check fun n =>
    spot.demand n.isInteger .fractional ++ (limits n).map spot.issue

/-- At least `least`. -/
def Number.defectsBelow (least : Int) (n : Number) : List Defect :=
  if n.lt (.ofInt least) then [.below least] else []

/-- At most `greatest`. -/
def Number.defectsAbove (greatest : Int) (n : Number) : List Defect :=
  if (Number.ofInt greatest).lt n then [.above greatest] else []

/-- Above zero. -/
def Number.defectsPositive (n : Number) : List Defect :=
  if n.le (.real 0) then [.notPositive] else []

/-- A whole number above zero. -/
def Spot.positive (spot : Spot) : Reading Number := spot.whole Number.defectsPositive

/-- A text that is not empty. -/
def Spot.name (spot : Spot) : Reading String :=
  spot.text.check fun s => spot.demand (s ≠ "") .emptyText

/-! ### E-mail addresses -/

namespace Email

/-- A letter, a digit, an underscore, a plus or a minus. -/
def isWord (c : Char) : Bool :=
  Text.isLetter c || Text.isDigit c || c == '_' || c == '+' || c == '-'

/-- The part before the sign: words, dots and apostrophes, with a word at the end and no dot at
    the beginning. -/
def isLocal (cs : List Char) : Bool :=
  cs.all (fun c => isWord c || c == '.' || c == '\x27')
    && cs.head? != some '.'
    && match cs.getLast? with
      | some c => isWord c
      | none => false

/-- A label of a domain: letters, digits and minus signs, not beginning with a minus. -/
def isLabel : List Char → Bool
  | [] => false
  | c :: rest =>
    (Text.isLetter c || Text.isDigit c)
      && rest.all fun c => Text.isLetter c || Text.isDigit c || c == '-'

/-- Labels between dots, at least two; the last one is made of two letters or more. -/
def isDomain (cs : List Char) : Bool :=
  match (Text.splitAt '.' cs).reverse with
  | last :: label :: labels =>
    last.all Text.isLetter && 2 ≤ last.length && (label :: labels).all isLabel
  | _ => false

/-- A local part and a domain around one sign, with no two dots in a row. -/
def isValid (address : String) : Bool :=
  let cs := address.toList
  match Text.splitAt '@' cs with
  | [name, domain] => isLocal name && isDomain domain && !Text.includes cs ['.', '.']
  | _ => false

end Email

/-! ### Tables -/

/-- A contributor. -/
def Contributor.read (spot : Spot) : Reading Contributor :=
  spot.record ["name", "email"] fun field =>
    Contributor.mk <$> (field "name").name
      <*> (field "email").text.check fun s => (field "email").demand (Email.isValid s) .badEmail

/-- A category. -/
def Category.read (spot : Spot) : Reading Category :=
  spot.record ["name", "count", "templates"] fun field =>
    Category.mk <$> (field "name").name
      <*> (field "count").whole (Number.defectsBelow 0)
      <*> (field "templates").list 1 Spot.name

/-- A file extension. -/
def Language.readExtension (spot : Spot) : Reading String :=
  spot.text.check fun s => spot.demand (s.toList.head? = some '.') .badExtension

/-- A language. -/
def Language.read (spot : Spot) : Reading Language :=
  spot.record ["name", "weight", "extensions"] fun field =>
    Language.mk <$> (field "name").name
      <*> (field "weight").number.check
        (fun n => (Number.defectsBelow 0 n).map (field "weight").issue)
      <*> (field "extensions").list 1 Language.readExtension

/-- The tables of a corpus on their own. Some language must be possible to draw. -/
def Corpus.read (spot : Spot) : Reading Corpus :=
  spot.record ["categories", "languages", "contributors"] fun field =>
    Corpus.mk <$> (field "categories").list 1 Category.read
      <*> ((field "languages").list 1 Language.read).check (fun languages =>
        (field "languages").demand (languages.any fun l => (Number.real 0).lt l.weight)
          (.broken .somePositiveWeight))
      <*> (field "contributors").list 1 Contributor.read

/-! ### Settings -/

/-- A range of whole numbers from `least` up. -/
def Range.read (least : Int) (spot : Spot) : Reading Range :=
  ((spot.pair fun item => item.whole (Number.defectsBelow least)).map
    fun (low, high) => Range.mk low high).check
      fun range => spot.demand (range.low.le range.high) (.broken .rangeOrder)

/-- The sizes of a repository. A history has two commits at least: one for the first files, one
    for the rest. -/
def Ranges.read (spot : Spot) : Reading Ranges :=
  spot.withDefault {} fun spot =>
    spot.record ["lines", "commits", "maxContributors"] fun field =>
      Ranges.mk
        <$> (field "lines").withDefault (Ranges.lines {}) (Range.read 1)
        <*> (field "commits").withDefault (Ranges.commits {}) (Range.read 2)
        <*> (field "maxContributors").withDefault (Ranges.maxContributors {}) Spot.positive

/-- The timeline of a history. -/
def Timeline.read (spot : Spot) : Reading Timeline :=
  spot.withDefault {} fun spot =>
    ((spot.record ["spanDays", "minGapHours", "maxGapHours"] fun field =>
      Timeline.mk
        <$> (field "spanDays").withDefault (Timeline.spanDays {}) Spot.positive
        <*> (field "minGapHours").withDefault (Timeline.minGapHours {}) Spot.positive
        <*> (field "maxGapHours").withDefault (Timeline.maxGapHours {}) Spot.positive).check
      fun timeline => Spot.demand ⟨none, spot.path ++ ["minGapHours"]⟩
        (!timeline.maxGapHours.lt timeline.minGapHours) (.broken .gapOrder))

/-- The rate of deliberate faults. -/
def FaultInjection.read (spot : Spot) : Reading FaultInjection :=
  spot.withDefault {} fun spot =>
    spot.record ["enabled", "probability"] fun field =>
      FaultInjection.mk <$> (field "enabled").withDefault true Spot.flag
        <*> (field "probability").withDefault (.ofRat (1 / 10)) fun spot =>
          spot.number.check fun n =>
            (Number.defectsBelow 0 n ++ Number.defectsAbove 1 n).map spot.issue

/-- A seed: a text that is not empty, or a whole number. -/
def Seed.read (spot : Spot) : Reading (Option Seed) :=
  spot.withDefault none fun spot =>
    match spot.value with
    | some (.string _) => spot.name.map fun s => some (.text s)
    | some (.number .nan) => .fail (spot.issue .noAlternative)
    | some (.number _) => (spot.whole fun _ => []).map fun n => some (.number n)
    | _ => .fail (spot.issue .noAlternative)

/-- The fields of a configuration. -/
def Config.keys : List String :=
  ["outputDir", "targetCount", "startIndex", "seed", "concurrency", "skipExisting", "ranges",
   "timeline", "faultInjection", "categories", "languages", "contributors"]

/-- A configuration. -/
def Config.read (spot : Spot) : Reading Config :=
  spot.record Config.keys fun field =>
    Config.mk
      <$> (field "outputDir").withDefault "./corpus" Spot.name
      <*> (field "targetCount").withDefault 1000 Spot.positive
      <*> (field "startIndex").withDefault 5001
        (fun spot => spot.whole fun n => n.defectsBelow 0 ++ n.defectsAbove 99999)
      <*> Seed.read (field "seed")
      <*> (field "concurrency").withDefault 1 Spot.positive
      <*> (field "skipExisting").withDefault true Spot.flag
      <*> Ranges.read (field "ranges")
      <*> Timeline.read (field "timeline")
      <*> FaultInjection.read (field "faultInjection")
      <*> (field "categories").withDefault Corpus.bundledCategories
        (fun spot => spot.list 1 Category.read)
      <*> (field "languages").withDefault Corpus.bundledLanguages
        (fun spot => spot.list 1 Language.read)
      <*> (field "contributors").withDefault Corpus.bundledContributors
        (fun spot => spot.list 1 Contributor.read)

end CorpusForge
