import CorpusForge.Text.Escape

/-!
# Styles of lines

A text for a terminal may set colours and effects by styles (`Escape.style?`), and they hold until
they are taken back. When a text is drawn line by line, between other things, every line has to set
what holds at its head and to take back what holds at its end.

* `Styling.ofLine`: what holds at the end of a line;
* `Styling.carry`: the lines of a text, each complete in itself.
-/

namespace CorpusForge

/-- An effect that a style may switch on and off. -/
inductive Effect where
  | bold
  | italic
  | underline
  | inverse
  | strikethrough
  deriving DecidableEq, Repr

namespace Effect

def all : List Effect := [bold, italic, underline, inverse, strikethrough]

/-- The number that switches an effect on. -/
def on : Effect → String
  | bold => "1"
  | italic => "3"
  | underline => "4"
  | inverse => "7"
  | strikethrough => "9"

/-- The number that switches an effect off. -/
def off : Effect → String
  | bold => "22"
  | italic => "23"
  | underline => "24"
  | inverse => "27"
  | strikethrough => "29"

end Effect

/-- The colours and effects at a place of a text. Colours are kept as the parameters that set them. -/
structure Styling where
  foreground : Option (List Char) := none
  background : Option (List Char) := none
  /-- The effects that were switched, in the order in which they were for the first time. -/
  effects : List (Effect × Bool) := []
  deriving DecidableEq, Repr

namespace Styling

/-- Switches an effect. -/
def switch (effect : Effect) (on : Bool) : List (Effect × Bool) → List (Effect × Bool)
  | [] => [(effect, on)]
  | (e, b) :: rest => if e = effect then (e, on) :: rest else (e, b) :: switch effect on rest

/-- The first number of parameters; none at all stand for a zero. -/
def number? (parameters : List Char) : Option Nat :=
  if parameters = [] then some 0
  else
    match parameters.takeWhile Text.isDigit with
    | [] => none
    | digits => some (Text.digitsValue digits)

/-- The effect that parameters switch, and how. -/
def effect? (parameters : List Char) : Option (Effect × Bool) :=
  Effect.all.findSome? fun e =>
    if parameters = e.on.toList then some (e, true)
    else if parameters = e.off.toList then some (e, false)
    else none

/-- The styling behind a style. A number decides whether it sets a colour; a zero takes everything
    back. -/
def apply (s : Styling) (parameters : List Char) : Styling :=
  match number? parameters, effect? parameters with
  | some 0, _ => {}
  | some n, switched =>
    if (30 ≤ n ∧ n ≤ 39) ∨ (90 ≤ n ∧ n ≤ 97) then { s with foreground := some parameters }
    else if (40 ≤ n ∧ n ≤ 49) ∨ (100 ≤ n ∧ n ≤ 107) then { s with background := some parameters }
    else
      match switched with
      | some (e, on) => { s with effects := switch e on s.effects }
      | none => s
  | none, _ => s

/-- The parameters of the styles of a line; `skipped` characters belong to one already read. -/
def styles : (skipped : Nat) → List Char → List (List Char)
  | _, [] => []
  | skipped + 1, _ :: rest => styles skipped rest
  | 0, c :: rest =>
    match Escape.styleParameters? (c :: rest) with
    | some parameters => parameters :: styles (parameters.length + 2) rest
    | none => styles 0 rest

/-- The styling at the end of a line. -/
def ofLine (line : List Char) : Styling := (styles 0 line).foldl apply {}

/-- A style with parameters. -/
def style (parameters : List Char) : List Char := Escape.escape :: '[' :: parameters ++ ['m']

/-- The effects that are on. -/
def active (s : Styling) : List Effect := (s.effects.filter Prod.snd).map Prod.fst

/-- The number that takes the colour of the text back. -/
def normalForeground : String := "39"

/-- The number that takes the colour behind the text back. -/
def normalBackground : String := "49"

/-- A colour that was set and not taken back by the number `normal`. -/
def held? (normal : String) (colour : Option (List Char)) : Option (List Char) :=
  colour.filter (· ≠ normal.toList)

/-- What sets a styling at the head of a line. -/
def opening (s : Styling) : List Char :=
  ((held? normalForeground s.foreground).map style).getD []
    ++ ((held? normalBackground s.background).map style).getD []
    ++ s.active.reverse.flatMap fun e => style e.on.toList

/-- What takes a styling back at the end of a line. -/
def closing (s : Styling) : List Char :=
  (s.active.flatMap fun e => style e.off.toList)
    ++ (if (held? normalBackground s.background).isSome then style normalBackground.toList else [])
    ++ (if (held? normalForeground s.foreground).isSome then style normalForeground.toList else [])

/-- The lines behind a styling, each with what it needs at both ends. -/
def carryFrom (s : Styling) : List (List Char) → List (List Char)
  | [] => []
  | line :: rest =>
    let line := s.opening ++ line
    let s := ofLine line
    (line ++ s.closing) :: carryFrom s rest

/-- The lines of a text, each with what it needs at both ends. -/
def carry (lines : List (List Char)) : List (List Char) := carryFrom {} lines

end Styling

end CorpusForge
