import CorpusForge.Text.Search

/-!
# Escape sequences

A text for a terminal may hold control sequences, which take no room: an escape character, or the
control character that stands for an escape and a bracket, with what belongs to it.

* `Escape.style?`: a sequence that sets colours and effects;
* `Escape.sequence?`: a control sequence of any kind.

Both give the number of characters of the sequence at the head of a text.
-/

namespace CorpusForge.Escape

/-- The character that begins a sequence. -/
def escape : Char := '\x1b'

/-! ### Styles -/

/-- A character of the parameters of a style. -/
def isParameter (c : Char) : Bool := Text.isDigit c || c == ';'

/-- The parameters of the style at the head of a text: numbers with semicolons between them, of
    which there are five at most. -/
def styleParameters? : List Char → Option (List Char)
  | e :: '[' :: rest =>
    let parameters := rest.takeWhile isParameter
    if e = escape ∧ (rest.dropWhile isParameter).head? = some 'm' ∧ parameters.count ';' ≤ 5 then
      some parameters
    else none
  | _ => none

/-- The length of the style at the head of a text. -/
def style? (cs : List Char) : Option Nat :=
  (styleParameters? cs).map fun parameters => parameters.length + 3

/-! ### Sequences -/

/-- A character that may stand behind the one that begins a sequence. -/
def isIntroducer (c : Char) : Bool := "[]()#;?".toList.contains c

/-- A character that ends a sequence with numbers. -/
def isFinal (c : Char) : Bool :=
  Text.isDigit c || ('A' ≤ c && c ≤ 'P') || ('R' ≤ c && c ≤ 'T') || c == 'Z' || c == 'c'
    || ('f' ≤ c && c ≤ 'n') || "tqry=><~".toList.contains c

/-- A character of an argument of a sequence with texts. -/
def isArgument (c : Char) : Bool :=
  Text.isLetter c || Text.isDigit c || "-/#&.:=?%@~_".toList.contains c

/-- The bell, which ends a sequence with texts. -/
def bell : Char := '\x07'

/-- The arguments of a sequence with texts: a word first, which may be left out when no other
    argument is empty. -/
def areArguments (cs : List Char) : Bool :=
  match Text.splitAt ';' cs with
  | [] => true
  | word :: more =>
    if word = [] then more.all fun argument => argument ≠ [] && argument.all isArgument
    else
      word.all (fun c => Text.isLetter c || Text.isDigit c)
        && more.all fun argument => argument.all isArgument

/-- The length of the rest of a sequence with texts, up to the bell. -/
def texts? (cs : List Char) : Option Nat :=
  let arguments := cs.takeWhile (· ≠ bell)
  if (cs.dropWhile (· ≠ bell)).head? = some bell ∧ areArguments arguments then
    some (arguments.length + 1)
  else none

/-- The numbers at the head of a text, each of four digits at most, with semicolons between them;
    `fuel` bounds how many there are. -/
def numbers : (fuel : Nat) → List Char → List Char
  | 0, _ => []
  | fuel + 1, cs =>
    let digits := (cs.take 4).takeWhile Text.isDigit
    match cs.drop digits.length with
    | ';' :: rest => digits ++ ';' :: numbers fuel rest
    | _ => digits

/-- The length of the rest of a sequence with numbers. Its last digit may stand for the character that
    ends it, and semicolons behind that do not belong to it. -/
def numbered? (cs : List Char) : Option Nat :=
  match cs with
  | [] => none
  | c :: _ =>
    let given := if Text.isDigit c then numbers cs.length cs else []
    if (cs.drop given.length).head?.any isFinal then some (given.length + 1)
    else if given = [] then none
    else some (given.reverse.dropWhile (· = ';')).length

/-- The length of a sequence without its first character. As many introducers as possible are
    passed. -/
def body? : List Char → Option Nat
  | [] => none
  | c :: rest =>
    let further := if isIntroducer c then body? rest else none
    match further, texts? (c :: rest) with
    | some n, _ => some (n + 1)
    | none, some n => some n
    | none, none => numbered? (c :: rest)

/-- The length of the control sequence at the head of a text. -/
def sequence? : List Char → Option Nat
  | [] => none
  | c :: rest => if c = escape ∨ c = '\x9b' then (body? rest).map (· + 1) else none

end CorpusForge.Escape
