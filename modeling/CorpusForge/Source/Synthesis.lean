import CorpusForge.Config.Basic
import CorpusForge.Random.Drawing
import CorpusForge.Source.Registry

/-!
# Synthesising sources

A source file is a header, units, functions and a footer. Its line budget sets how many units and
functions there are; it is not the exact length. Each unit may get a deliberate fault.

* `Source.unitCount`, `Source.functionCount`: what a budget pays for;
* `Source.unitBaseName`: the name of the units, from the role of the file;
* `Source.synthesize`: a source file.
-/

namespace CorpusForge.Source

/-! ### Counts -/

/-- How often a size fits into a budget, but once at least. -/
def shareOf (size lines : Number) : Number := Number.maximum 1 (lines / size).floor

/-- The number of units that a budget pays for. -/
def unitCount (lines : Number) : Number := shareOf 50 lines

/-- The number of functions outside units that a budget pays for. -/
def functionCount (style : Style) (lines : Number) : Number :=
  if style.freeFunctions then shareOf 30 lines else 0

/-! ### Names -/

/-- The runs of letters and digits in a text. -/
def words : (current : List Char) → List Char → List (List Char)
  | current, [] => if current = [] then [] else [current.reverse]
  | current, c :: rest =>
    if Text.isLetter c || Text.isDigit c then words (c :: current) rest
    else if current = [] then words [] rest
    else current.reverse :: words [] rest

/-- A word with a capital in front. -/
def capitalize : List Char → List Char
  | [] => []
  | c :: rest => (if 'a' ≤ c && c ≤ 'z' then Char.ofNat (c.toNat - 32) else c) :: rest

/-- The name of the units of a file: the words of its role, joined, each with a capital. -/
def unitBaseName (role : String) : String :=
  let name := (words [] role.toList).flatMap capitalize
  if name = [] then "Component" else String.ofList name

/-! ### Files -/

/-- What a source file is to be. -/
structure Request where
  language : String
  role : String
  lines : Number
  deriving DecidableEq, Repr

/-- A synthesised file. -/
structure Synthesized where
  text : String
  unitCount : Number
  functionCount : Number
  faultsInjected : Nat
  /-- The language has no style. -/
  placeholder : Bool
  deriving DecidableEq, Repr

/-- The text of a file in a language without a style: as many comment lines as the budget has. -/
def placeholderText (lines : Number) : String :=
  Text.unlines ((List.range lines.steps).map fun i => "// Line " ++ Decimal.natText i)

/-- Units from position `index` on. Whether a unit is faulty is drawn when faults are enabled. -/
def drawUnits {ε : Type} (base role : String) (faults : FaultInjection) :
    (count : Nat) → (index : Nat) → Drawing ε (List CodeUnit)
  | 0, _ => pure []
  | count + 1, index => do
    let faulty ← if faults.enabled then Drawing.chance faults.probability else pure false
    let rest ← drawUnits base role faults count (index + 1)
    return ⟨index, base ++ Decimal.natText index, role, faulty⟩ :: rest

/-- The lines of a file with the given units. -/
def fileLines (style : Style) (role : String) (units : List CodeUnit) (functions : Nat) :
    List String :=
  style.header role
    ++ units.flatMap style.unit
    ++ (match style.function with
      | some function => (List.range functions).flatMap fun index => function index role
      | none => [])
    ++ style.footer

/-- A source file for a request. -/
def synthesize {ε : Type} (registry : Registry) (request : Request) (faults : FaultInjection) :
    Drawing ε Synthesized :=
  match registry.get? request.language with
  | none => pure ⟨placeholderText request.lines, 0, 0, 0, true⟩
  | some style => do
    let functions := functionCount style request.lines
    let units ← drawUnits (unitBaseName request.role) request.role faults
      (unitCount request.lines).steps 0
    return {
      text := Text.join "\n" (fileLines style request.role units functions.steps) ++ "\n"
      unitCount := unitCount request.lines
      functionCount := functions
      faultsInjected := (units.filter CodeUnit.faulty).length
      placeholder := false }

end CorpusForge.Source
