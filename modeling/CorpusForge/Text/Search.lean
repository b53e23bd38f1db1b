/-!
# Cutting and searching

Functions on texts as lists of characters: cutting at a separator, looking for a word, replacing
its first occurrence, padding to a width.
-/

namespace CorpusForge.Text

/-- The pieces between the occurrences of a separator; a text without one is a single piece. -/
def splitAt (sep : Char) : List Char → List (List Char)
  | [] => [[]]
  | c :: rest =>
    if c = sep then [] :: splitAt sep rest
    else
      match splitAt sep rest with
      | piece :: more => (c :: piece) :: more
      | [] => [[c]]

/-- `some rest` when the text is `word ++ rest`. -/
def dropWord : (word : List Char) → (text : List Char) → Option (List Char)
  | [], text => some text
  | _ :: _, [] => none
  | w :: word, c :: text => if w = c then dropWord word text else none

/-- The text starts with the word. -/
def startsWith (text word : List Char) : Bool := (dropWord word text).isSome

/-- The word occurs in the text. -/
def includes : (text : List Char) → (word : List Char) → Bool
  | [], word => word.isEmpty
  | c :: text, word => startsWith (c :: text) word || includes text word

/-- The parts before and after the first occurrence of the word. -/
def cutAt (word : List Char) : List Char → Option (List Char × List Char)
  | [] => if word.isEmpty then some ([], []) else none
  | c :: text =>
    match dropWord word (c :: text) with
    | some rest => some ([], rest)
    | none => (cutAt word text).map fun (before, after) => (c :: before, after)

/-- Fills up with a character on the left. -/
def padLeft (width : Nat) (fill : Char) (cs : List Char) : List Char :=
  List.replicate (width - cs.length) fill ++ cs

/-- Fills up with a character on the right. -/
def padRight (width : Nat) (fill : Char) (cs : List Char) : List Char :=
  cs ++ List.replicate (width - cs.length) fill

/-- The word occurs in the text. -/
def hasWord (text word : String) : Bool := includes text.toList word.toList

/-- The text with its pieces of one kind replaced. `find` gives the length of the piece at the head of
    a text, if one is there; `skipped` characters are still to be left out. -/
def replaceAll (find : List Char → Option Nat) (piece : List Char) :
    (skipped : Nat) → List Char → List Char
  | _, [] => []
  | skipped + 1, _ :: rest => replaceAll find piece skipped rest
  | 0, c :: rest =>
    match find (c :: rest) with
    | some (n + 1) => piece ++ replaceAll find piece n rest
    | _ => c :: replaceAll find piece 0 rest

/-- One text from many, a separator between each two. -/
def join (sep : String) : List String → String
  | [] => ""
  | first :: rest => rest.foldl (fun acc piece => acc ++ sep ++ piece) first

/-- Each line followed by a line end. -/
def unlines (lines : List String) : String :=
  lines.foldl (fun acc line => acc ++ line ++ "\n") ""

/-- An ASCII letter. -/
def isLetter (c : Char) : Bool := ('a' ≤ c && c ≤ 'z') || ('A' ≤ c && c ≤ 'Z')

/-- An ASCII digit. -/
def isDigit (c : Char) : Bool := '0' ≤ c && c ≤ '9'

/-- The value of a decimal digit. -/
def digitValue (c : Char) : Nat := c.toNat - 48

/-- The natural number that a row of digits denotes. -/
def digitsValue (digits : List Char) : Nat :=
  digits.foldl (fun n c => 10 * n + digitValue c) 0

end CorpusForge.Text
