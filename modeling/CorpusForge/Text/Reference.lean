import CorpusForge.Text.Search

/-!
# References in a text

A text may name values: an opening mark, a name, a closing mark. `Reference.scan` splits a text,
from left to right, into characters that stand for themselves and references; `Reference.expand`
puts the values in. A value is inserted as it is and never scanned again, and a mark without a
well-formed name stands for itself.
-/

namespace CorpusForge

/-- How a reference is written. -/
structure ReferenceStyle where
  opening : List Char
  closing : List Char
  /-- The characters that may begin a name. -/
  leads : Char → Bool
  /-- The characters that may follow in a name. -/
  follows : Char → Bool

/-- A part of a scanned text. -/
inductive Piece where
  | literal (c : Char)
  | reference (name : List Char)
  deriving DecidableEq, Repr

namespace ReferenceStyle

/-- The name at the head of a text. -/
def nameAt? (style : ReferenceStyle) : List Char → Option (List Char)
  | [] => none
  | c :: rest => if style.leads c then some (c :: rest.takeWhile style.follows) else none

/-- The name of the reference that the text begins with. -/
def at? (style : ReferenceStyle) (cs : List Char) : Option (List Char) := do
  let body ← Text.dropWord style.opening cs
  let name ← style.nameAt? body
  if Text.startsWith (body.drop name.length) style.closing then some name else none

/-- The number of characters of a written reference. -/
def width (style : ReferenceStyle) (name : List Char) : Nat :=
  style.opening.length + name.length + style.closing.length

/-- The pieces of a text of which the first `skip` characters belong to a reference already
    taken. -/
def scanFrom (style : ReferenceStyle) : (skip : Nat) → List Char → List Piece
  | _, [] => []
  | skip + 1, _ :: rest => scanFrom style skip rest
  | 0, c :: rest =>
    match style.at? (c :: rest) with
    | some name => .reference name :: scanFrom style (style.width name - 1) rest
    | none => .literal c :: scanFrom style 0 rest

/-- The pieces of a text. -/
def scan (style : ReferenceStyle) (cs : List Char) : List Piece := scanFrom style 0 cs

/-- The text of the pieces with every reference replaced by its value; `error name` for the first
    reference without one. -/
def fill (values : String → Option String) : List Piece → Except String (List Char)
  | [] => .ok []
  | .literal c :: rest => do
    let text ← fill values rest
    return c :: text
  | .reference name :: rest =>
    match values (String.ofList name) with
    | some value => do
      let text ← fill values rest
      return value.toList ++ text
    | none => .error (String.ofList name)

/-- A text with its references replaced by their values. -/
def expand (style : ReferenceStyle) (values : String → Option String) (text : String) :
    Except String String := do
  let filled ← fill values (style.scan text.toList)
  return String.ofList filled

end ReferenceStyle

end CorpusForge
