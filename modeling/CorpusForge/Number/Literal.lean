import CorpusForge.Number.Decimal
import CorpusForge.Text.Blank
import CorpusForge.Text.Search

/-!
# Number literals

A number is read from the head of a text: white space, a sign, digits. What follows the literal is
not looked at.

* `Number.leadingInteger`: a whole number;
* `Number.leadingDecimal`: a number with places behind the point and an exponent;
* `Number.readInteger`, `Number.readProbability`: a value given on the command line.
-/

namespace CorpusForge

/-- A text that holds no number where one is asked for. -/
inductive NumberDefect where
  | notAnInteger (text : String)
  | notAProbability (text : String)
  deriving DecidableEq, Repr

/-- The wording of a defect. -/
def NumberDefect.message : NumberDefect → String
  | notAnInteger text => s!"Expected an integer but received \"{text}\"."
  | notAProbability text => s!"Expected a probability between 0 and 1 but received \"{text}\"."

namespace Number

/-- A sign at the head of a text, if there is one: whether it is a minus, and what follows. -/
def splitSign : List Char → Bool × List Char
  | '-' :: rest => (true, rest)
  | '+' :: rest => (false, rest)
  | rest => (false, rest)

/-- The whole number at the head of a text. -/
def leadingInteger (text : List Char) : Option Number :=
  let (negative, rest) := splitSign (text.dropWhile Text.isBlank)
  let digits := rest.takeWhile Text.isDigit
  if digits = [] then none
  else some (Decimal.toNumber negative ⟨Text.digitsValue digits, 0⟩)

/-- The digits behind a decimal point, if there is one, and what follows. -/
def splitPlaces : List Char → List Char × List Char
  | '.' :: rest => (rest.takeWhile Text.isDigit, rest.dropWhile Text.isDigit)
  | rest => ([], rest)

/-- The exponent at the head of a text; zero when there is none. -/
def leadingExponent : List Char → Int
  | [] => 0
  | mark :: rest =>
    if mark = 'e' ∨ mark = 'E' then
      let (negative, rest) := splitSign rest
      let size : Int := Text.digitsValue (rest.takeWhile Text.isDigit)
      if negative then -size else size
    else 0

/-- The number at the head of a text: digits, a point with digits behind it, an exponent. There
    must be a digit on one side of the point. -/
def leadingDecimal (text : List Char) : Option Number :=
  let (negative, rest) := splitSign (text.dropWhile Text.isBlank)
  let whole := rest.takeWhile Text.isDigit
  let (places, rest) := splitPlaces (rest.dropWhile Text.isDigit)
  if whole = [] ∧ places = [] then none
  else
    some (Decimal.toNumber negative
      ⟨Text.digitsValue (whole ++ places), leadingExponent rest - places.length⟩)

/-- The whole number that a text starts with; it must be finite. -/
def readInteger (text : String) : Except NumberDefect Number :=
  match leadingInteger text.toList with
  | some n => if n.isFinite then .ok n else .error (.notAnInteger text)
  | none => .error (.notAnInteger text)

/-- The number between zero and one that a text starts with. -/
def readProbability (text : String) : Except NumberDefect Number :=
  match leadingDecimal text.toList with
  | some n =>
    if n.isFinite && !n.lt (.ofInt 0) && !(Number.ofInt 1).lt n then .ok n
    else .error (.notAProbability text)
  | none => .error (.notAProbability text)

end Number

end CorpusForge
