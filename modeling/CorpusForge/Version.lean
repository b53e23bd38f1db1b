import CorpusForge.Number.Literal

/-!
# Versions

A version is a row of numbers with dots between them. Versions are compared number by number from
the left, and a missing number counts as zero.

* `Version.find?`: the first version with three numbers in a text;
* `Version.isAtLeast`: the comparison.
-/

namespace CorpusForge.Version

/-- A run of digits at the head of a text, and what follows it. -/
def splitDigits (cs : List Char) : Option (List Char × List Char) :=
  let digits := cs.takeWhile Text.isDigit
  if digits = [] then none else some (digits, cs.dropWhile Text.isDigit)

/-- A run of digits behind a dot, and what follows it. -/
def splitDotted : List Char → Option (List Char × List Char)
  | '.' :: rest => splitDigits rest
  | _ => none

/-- Three runs of digits with dots between them at the head of a text. -/
def at? (cs : List Char) : Option (List Char) := do
  let (major, rest) ← splitDigits cs
  let (minor, rest) ← splitDotted rest
  let (patch, _) ← splitDotted rest
  return major ++ '.' :: minor ++ '.' :: patch

/-- The first place where a version stands. -/
def search : List Char → Option (List Char)
  | [] => none
  | c :: rest =>
    match at? (c :: rest) with
    | some version => some version
    | none => search rest

/-- The first version in a text, with the letter v before it. -/
def find? (text : String) : Option String :=
  (search text.toList).map fun version => String.ofList ('v' :: version)

/-- The numbers of a version. A part that starts with no number is not a number. -/
def parts (version : String) : List Number :=
  (Text.splitAt '.' version.toList).map fun part => (Number.leadingInteger part).getD .nan

/-- Compares two numbers; equal ones leave it to what follows. -/
def decideBy (a b : Number) (equal : Bool) : Bool :=
  let distance := a - b
  if distance.eq (.ofInt 0) then equal else (Number.ofInt 0).lt distance

/-- The first row of numbers is at least the second one. -/
def covers : List Number → List Number → Bool
  | [], [] => true
  | a :: as, [] => decideBy a (.ofInt 0) (covers as [])
  | [], b :: bs => decideBy (.ofInt 0) b (covers [] bs)
  | a :: as, b :: bs => decideBy a b (covers as bs)

/-- A version is at least another one. -/
def isAtLeast (version minimum : String) : Bool := covers (parts version) (parts minimum)

end CorpusForge.Version
