import CorpusForge.Value.Basic

/-!
# Reading plain values

A `Reading` is what reading a plain value as an `α` gives: the value, unless something had the
wrong type, and every defect found on the way, in order. A value that breaks a limit is still
there, so rules that compare several values can be checked on it; a value of the wrong type is
not.

* `Spot`: a value and the path that leads to it;
* `Reading.check`: a rule, applied when every type was right;
* `Spot.text`, `Spot.number`, `Spot.flag`, `Spot.list`, `Spot.pair`, `Spot.record`: the readers.
-/

namespace CorpusForge

/-- The type of a plain value. -/
inductive Kind where
  | missing
  | null
  | boolean
  | number
  | nan
  | string
  | array
  | object
  deriving DecidableEq, Repr

namespace Kind

def text : Kind → String
  | missing => "undefined"
  | null => "null"
  | boolean => "boolean"
  | number => "number"
  | nan => "nan"
  | string => "string"
  | array => "array"
  | object => "object"

def of : Option Value → Kind
  | none => missing
  | some .null => null
  | some (.bool _) => boolean
  | some (.number .nan) => nan
  | some (.number _) => number
  | some (.string _) => string
  | some (.array _) => array
  | some (.object _) => object

end Kind

/-- A rule between several values of a configuration. -/
inductive Rule where
  | rangeOrder
  | gapOrder
  | somePositiveWeight
  deriving DecidableEq, Repr

namespace Rule

def message : Rule → String
  | rangeOrder => "range minimum exceeds maximum"
  | gapOrder => "minGapHours exceeds maxGapHours"
  | somePositiveWeight => "at least one language needs a positive weight"

end Rule

/-- What can be wrong with a value. -/
inductive Defect where
  | wrongKind (expected received : Kind)
  | fractional
  | below (least : Int)
  | above (greatest : Int)
  | notPositive
  | tooFewItems (least : Nat)
  | tooManyItems (greatest : Nat)
  | emptyText
  | badEmail
  | badExtension
  | unknownKeys (keys : List String)
  | noAlternative
  | broken (rule : Rule)
  deriving DecidableEq, Repr

namespace Defect

/-- The class of a defect. -/
def code : Defect → String
  | wrongKind .. => "invalid_type"
  | fractional => "invalid_type"
  | below _ => "too_small"
  | above _ => "too_big"
  | notPositive => "too_small"
  | tooFewItems _ => "too_small"
  | tooManyItems _ => "too_big"
  | emptyText => "too_small"
  | badEmail => "invalid_string"
  | badExtension => "invalid_string"
  | unknownKeys _ => "unrecognized_keys"
  | noAlternative => "invalid_union"
  | broken _ => "custom"

/-- The wording of a defect. -/
def message : Defect → String
  | wrongKind expected received =>
    if received = .missing then "Required"
    else s!"Expected {expected.text}, received {received.text}"
  | fractional => "Expected integer, received float"
  | below least => s!"Number must be greater than or equal to {Number.intText least}"
  | above greatest => s!"Number must be less than or equal to {Number.intText greatest}"
  | notPositive => "Number must be greater than 0"
  | tooFewItems least => s!"Array must contain at least {Decimal.natText least} element(s)"
  | tooManyItems greatest => s!"Array must contain at most {Decimal.natText greatest} element(s)"
  | emptyText => "String must contain at least 1 character(s)"
  | badEmail => "Invalid email"
  | badExtension => "extension must start with a dot"
  | unknownKeys keys =>
    "Unrecognized key(s) in object: " ++ Text.join ", " (keys.map fun key => s!"'{key}'")
  | noAlternative => "Invalid input"
  | broken rule => rule.message

end Defect

/-- A defect and the path that leads to it. -/
structure Issue where
  defect : Defect
  path : List String
  deriving DecidableEq, Repr

/-- The plain form of an issue. -/
def Issue.toValue (issue : Issue) : Value :=
  .object [("code", .string issue.defect.code), ("message", .string issue.defect.message),
    ("path", .string (Text.join "." issue.path))]

/-- The outcome of reading an `α`. -/
structure Reading (α : Type) where
  /-- The value, when every type below it was right. -/
  value : Option α
  /-- The defects, in the order in which they are found. -/
  issues : List Issue

namespace Reading

variable {α β : Type}

/-- A value without a defect. -/
def ok (a : α) : Reading α := ⟨some a, []⟩

/-- No value, for one defect. -/
def fail (issue : Issue) : Reading α := ⟨none, [issue]⟩

protected def map (f : α → β) (r : Reading α) : Reading β := ⟨r.value.map f, r.issues⟩

/-- Two readings, one after the other. -/
protected def seq (f : Reading (α → β)) (x : Unit → Reading α) : Reading β :=
  let r := x ()
  ⟨match f.value, r.value with
    | some g, some a => some (g a)
    | _, _ => none,
   f.issues ++ r.issues⟩

instance : Functor Reading where
  map := Reading.map

instance : Applicative Reading where
  pure := ok
  seq := Reading.seq

/-- Adds the defects that a rule finds in the value. -/
def check (r : Reading α) (rule : α → List Issue) : Reading α :=
  ⟨r.value, r.issues ++ (match r.value with
    | some a => rule a
    | none => [])⟩

/-- Adds a defect whatever the value is. -/
def report (r : Reading α) (issues : List Issue) : Reading α := ⟨r.value, r.issues ++ issues⟩

/-- The value, when nothing was wrong. -/
def result (r : Reading α) : Except (List Issue) α :=
  match r.issues, r.value with
  | [], some a => .ok a
  | issues, _ => .error issues

end Reading

/-- A place in a plain value: what stands there, if anything, and the path to it. -/
structure Spot where
  value : Option Value
  path : List String

namespace Spot

variable {α : Type}

/-- A defect at this place. -/
def issue (spot : Spot) (defect : Defect) : Issue := ⟨defect, spot.path⟩

/-- A defect at this place, unless the condition holds. -/
def demand (spot : Spot) (condition : Bool) (defect : Defect) : List Issue :=
  if condition then [] else [spot.issue defect]

/-- A value of another type than expected. -/
def wrongKind (spot : Spot) (expected : Kind) : Reading α :=
  .fail (spot.issue (.wrongKind expected (.of spot.value)))

/-- A text. -/
def text (spot : Spot) : Reading String :=
  match spot.value with
  | some (.string s) => .ok s
  | _ => spot.wrongKind .string

/-- A number; not-a-number is none. -/
def number (spot : Spot) : Reading Number :=
  match spot.value with
  | some (.number .nan) => spot.wrongKind .number
  | some (.number n) => .ok n
  | _ => spot.wrongKind .number

/-- A truth value. -/
def flag (spot : Spot) : Reading Bool :=
  match spot.value with
  | some (.bool b) => .ok b
  | _ => spot.wrongKind .boolean

/-- Reads a value that may be missing. -/
def withDefault (spot : Spot) (default : α) (read : Spot → Reading α) : Reading α :=
  match spot.value with
  | none => .ok default
  | some _ => read spot

/-- Reads the items from position `index` on. -/
def itemsFrom (read : Spot → Reading α) (path : List String) :
    (index : Nat) → List Value → Reading (List α)
  | _, [] => .ok []
  | index, item :: rest =>
    Reading.seq ((read ⟨some item, path ++ [Decimal.natText index]⟩).map (· :: ·))
      fun _ => itemsFrom read path (index + 1) rest

/-- A list with at least `least` items. -/
def list (spot : Spot) (least : Nat) (read : Spot → Reading α) : Reading (List α) :=
  match spot.value with
  | some (.array items) =>
    let rest := itemsFrom read spot.path 0 items
    ⟨rest.value, spot.demand (least ≤ items.length) (.tooFewItems least) ++ rest.issues⟩
  | _ => spot.wrongKind .array

/-- A list of exactly two items. One without a second item has the wrong type; a third item is
    too many, and is not looked at. -/
def pair (spot : Spot) (read : Spot → Reading α) : Reading (α × α) :=
  match spot.value with
  | some (.array (first :: second :: more)) =>
    let both := Reading.seq ((read ⟨some first, spot.path ++ ["0"]⟩).map Prod.mk)
      fun _ => read ⟨some second, spot.path ++ ["1"]⟩
    ⟨both.value, spot.demand more.isEmpty (.tooManyItems 2) ++ both.issues⟩
  | some (.array _) => .fail (spot.issue (.tooFewItems 2))
  | _ => spot.wrongKind .array

/-- A record whose keys are among `known`. The fields are read first; unknown keys are one
    defect after those of the fields. -/
def record (spot : Spot) (known : List String) (read : (String → Spot) → Reading α) :
    Reading α :=
  match spot.value with
  | some (.object fields) =>
    let unknown := (fields.map Prod.fst).filter fun key => !known.contains key
    (read fun key => ⟨Fields.get? key fields, spot.path ++ [key]⟩).report
      (spot.demand unknown.isEmpty (.unknownKeys unknown))
  | _ => spot.wrongKind .object

end Spot

end CorpusForge
