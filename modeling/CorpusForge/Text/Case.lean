import CorpusForge.Text.CaseTable
import CorpusForge.Text.Search

/-!
# Letter case

The lower-case form of a text, by the simple case mapping of Unicode; a capital sigma at the end
of a word becomes the final form, and the dotted capital I keeps its dot as a combining mark. The
upper-case form is needed for names of variables only, so it maps what has a capital in ASCII.
-/

namespace CorpusForge.Text

/-- The small letter of a capital; any other character is kept. -/
def lowerChar (c : Char) : Char :=
  let n := c.toNat
  if n < 128 then
    if 'A' ≤ c && c ≤ 'Z' then Char.ofNat (n + 32) else c
  else
    match capitals.find? fun run =>
        run.first ≤ n && n ≤ run.last && (n - run.first) % run.step == 0 with
    | some run => Char.ofNat ((n : Int) + run.shift).toNat
    | none => c

/-- A character that has a case. -/
def isCased (c : Char) : Bool :=
  if c.toNat < 128 then isLetter c else casedSet.has c

/-- A character that is passed over when the neighbour of a letter is looked for. -/
def isIgnorable (c : Char) : Bool := ignorableSet.has c

/-- `before` holds the characters already passed, the last one first. -/
def lowerFrom (before : List Char) : List Char → List Char
  | [] => []
  | c :: rest =>
    let small :=
      if c = 'Σ' then
        let follows := (rest.dropWhile isIgnorable).head?.any isCased
        let leads := (before.dropWhile isIgnorable).head?.any isCased
        if leads && !follows then ['ς'] else ['σ']
      else if c = 'İ' then ['i', '\u0307']
      else [lowerChar c]
    small ++ lowerFrom (c :: before) rest

/-- The text in small letters. -/
def lower (s : String) : String := String.ofList (lowerFrom [] s.toList)

/-- The ASCII capitals that a character of a variable name stands for; any other character is
    kept. -/
def upperChar (c : Char) : List Char :=
  if 'a' ≤ c && c ≤ 'z' then [Char.ofNat (c.toNat - 32)]
  else
    match c with
    | 'ß' => ['S', 'S']
    | 'ı' => ['I']
    | 'ſ' => ['S']
    | 'ﬀ' => ['F', 'F']
    | 'ﬁ' => ['F', 'I']
    | 'ﬂ' => ['F', 'L']
    | 'ﬃ' => ['F', 'F', 'I']
    | 'ﬄ' => ['F', 'F', 'L']
    | 'ﬅ' => ['S', 'T']
    | 'ﬆ' => ['S', 'T']
    | c => [c]

/-- The text in ASCII capitals. -/
def upper (s : String) : String := String.ofList (s.toList.flatMap upperChar)

end CorpusForge.Text
