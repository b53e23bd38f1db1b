import CorpusForge.Number.Decimal
import CorpusForge.Text.Search

/-!
# Plain values

A `Value` is what a configuration source, an error context or a machine-readable report is made
of: scalars, lists and records. The fields of a record keep their order.

* `Value.text?`: the text of a value inside a sentence;
* `Value.get?`, `Fields.set`: a field of a record;
* `Fields.built`: a record that is built field by field.
-/

namespace CorpusForge

/-- A tree of scalars, lists and records. -/
inductive Value where
  | null
  | bool (value : Bool)
  | number (value : Number)
  | string (value : String)
  | array (items : List Value)
  | object (fields : List (String × Value))
  deriving Inhabited

/-- The fields of a record, in order. -/
abbrev Fields := List (String × Value)

namespace Fields

/-- The value of a field. -/
def get? (key : String) : Fields → Option Value
  | [] => none
  | (k, v) :: rest => if k = key then some v else get? key rest

/-- Replaces the value of a field where it stands, or adds the field at the end. -/
def set (key : String) (value : Value) : Fields → Fields
  | [] => [(key, value)]
  | (k, v) :: rest => if k = key then (k, value) :: rest else (k, v) :: set key value rest

/-- The record without a field. -/
def drop (key : String) (fields : Fields) : Fields := fields.filter fun (k, _) => k != key

/-- The names that every record inherits. -/
def inheritedNames : List String :=
  ["constructor", "__defineGetter__", "__defineSetter__", "hasOwnProperty", "__lookupGetter__",
   "__lookupSetter__", "isPrototypeOf", "propertyIsEnumerable", "toString", "valueOf", "__proto__",
   "toLocaleString"]

/-- A name that is found in every record, whatever its fields are. -/
def isInherited (name : String) : Bool := inheritedNames.contains name

/-- The position that a field's name names in a list: a canonical decimal below `2 ^ 32 - 1`. -/
def position? (key : String) : Option Nat :=
  let cs := key.toList
  if cs ≠ [] ∧ cs.all Text.isDigit ∧ cs.length ≤ 10 ∧ (cs.head? ≠ some '0' ∨ cs.length = 1) then
    let n := Text.digitsValue cs
    if n < 4294967295 then some n else none
  else none

/-- The walking order of a record: fields named by positions first, in numeric order, then the
    others as they stand. -/
def arranged (fields : Fields) : Fields :=
  let numbered := fields.filter fun (k, _) => (position? k).isSome
  if numbered.isEmpty then fields
  else
    let rank := fun (field : String × Value) => (position? field.1).getD 0
    numbered.mergeSort (fun a b => rank a ≤ rank b)
      ++ fields.filter fun (k, _) => (position? k).isNone

end Fields

namespace Value

/-- A field of a record. -/
def get? (key : String) : Value → Option Value
  | .object fields => Fields.get? key fields
  | _ => none

/-- A whole number. -/
def int (n : Int) : Value := .number (.ofInt n)

/-- A natural number. -/
def nat (n : Nat) : Value := .number (.ofNat n)

/-- A list of texts. -/
def strings (items : List String) : Value := .array (items.map .string)

/-- A record or a list. -/
def isRecord : Value → Bool
  | .array _ => true
  | .object _ => true
  | _ => false

mutual

/-- The text of a value inside a sentence: a list is its items between commas, where an absent item
    is empty. A record that brings a `toString` of its own has no text, as that cannot be called. -/
def text? : Value → Option String
  | .null => some "null"
  | .bool true => some "true"
  | .bool false => some "false"
  | .number n => some n.text
  | .string s => some s
  | .array items => (itemTexts? items).map (Text.join ",")
  | .object fields => if (Fields.get? "toString" fields).isSome then none else some "[object Object]"

/-- The texts of the items of a list. -/
def itemTexts? : List Value → Option (List String)
  | [] => some []
  | .null :: rest => (itemTexts? rest).map ("" :: ·)
  | v :: rest =>
    match text? v, itemTexts? rest with
    | some text, some texts => some (text :: texts)
    | _, _ => none

end

/-- The fields that a record inherits from a value: those of a record, and the items of a list by
    their positions. -/
def inherited : Value → Fields
  | .object fields => fields
  | .array items => items.mapIdx fun position item => (Decimal.natText position, item)
  | _ => []

end Value

/-- What is seen of a record that is built by setting one field after the other. Setting `__proto__`
    makes no field: what the record inherits from the value is seen behind its own fields, unless
    one of these hides it. -/
def Fields.built (fields : Fields) : Fields :=
  let own := fields.drop "__proto__"
  let more := ((fields.get? "__proto__").map Value.inherited).getD []
  own ++ more.filter fun (key, _) => (own.get? key).isNone

end CorpusForge
