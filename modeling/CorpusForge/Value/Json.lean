import CorpusForge.Value.Basic

/-!
# JSON text

`Json.read` reads one JSON value, `Json.write` writes one with two blanks of indentation. A
repeated field keeps its first place and its last value.
-/

namespace CorpusForge.Json

/-! ### Reading -/

/-- White space between the tokens. -/
def isSpace (c : Char) : Bool := c == ' ' || c == '\n' || c == '\r' || c == '\t'

def skipSpace (cs : List Char) : List Char := cs.dropWhile isSpace

/-- The value of a hexadecimal digit. -/
def hexValue (c : Char) : Option Nat :=
  if '0' ≤ c && c ≤ '9' then some (c.toNat - 48)
  else if 'a' ≤ c && c ≤ 'f' then some (c.toNat - 87)
  else if 'A' ≤ c && c ≤ 'F' then some (c.toNat - 55)
  else none

/-- Four hexadecimal digits. -/
def readUnit : List Char → Option (Nat × List Char)
  | a :: b :: c :: d :: rest => do
    let a ← hexValue a
    let b ← hexValue b
    let c ← hexValue c
    let d ← hexValue d
    return (((a * 16 + b) * 16 + c) * 16 + d, rest)
  | _ => none

/-- The character of an escaped unit, with the second unit of a surrogate pair. -/
def readEscapedUnit (cs : List Char) : Option (Char × List Char) := do
  let (high, rest) ← readUnit cs
  if 0xD800 ≤ high ∧ high < 0xDC00 then
    match rest with
    | '\\' :: 'u' :: more =>
      let (low, rest) ← readUnit more
      if 0xDC00 ≤ low ∧ low < 0xE000 then
        return (Char.ofNat (0x10000 + (high - 0xD800) * 0x400 + (low - 0xDC00)), rest)
      else return (Char.ofNat 0xFFFD, '\\' :: 'u' :: more)
    | _ => return (Char.ofNat 0xFFFD, rest)
  else if 0xDC00 ≤ high ∧ high < 0xE000 then return (Char.ofNat 0xFFFD, rest)
  else return (Char.ofNat high, rest)

/-- The rest of a text behind its opening quote; `seen` holds what was read, the last first. -/
def readString : (fuel : Nat) → (seen : List Char) → List Char → Option (String × List Char)
  | 0, _, _ => none
  | _, _, [] => none
  | _ + 1, seen, '"' :: rest => some (String.ofList seen.reverse, rest)
  | fuel + 1, seen, '\\' :: rest =>
    match rest with
    | 'n' :: rest => readString fuel ('\n' :: seen) rest
    | 't' :: rest => readString fuel ('\t' :: seen) rest
    | 'r' :: rest => readString fuel ('\r' :: seen) rest
    | 'b' :: rest => readString fuel ('\x08' :: seen) rest
    | 'f' :: rest => readString fuel ('\x0c' :: seen) rest
    | 'u' :: rest =>
      match readEscapedUnit rest with
      | some (c, rest) => readString fuel (c :: seen) rest
      | none => none
    | c :: rest =>
      if c = '"' ∨ c = '\\' ∨ c = '/' then readString fuel (c :: seen) rest else none
    | [] => none
  | fuel + 1, seen, c :: rest => if c.toNat < 32 then none else readString fuel (c :: seen) rest

/-- An exponent, when one follows. -/
def readExponent (cs : List Char) : Option (Int × List Char) :=
  match cs with
  | e :: rest =>
    if e = 'e' ∨ e = 'E' then
      let (negative, digits) :=
        match rest with
        | '-' :: more => (true, more)
        | '+' :: more => (false, more)
        | more => (false, more)
      let run := digits.takeWhile Text.isDigit
      if run = [] then none
      else
        let n : Int := Text.digitsValue run
        some (if negative then -n else n, digits.dropWhile Text.isDigit)
    else some (0, cs)
  | [] => some (0, [])

/-- A number. -/
def readNumber (cs : List Char) : Option (Number × List Char) :=
  let (negative, cs) :=
    match cs with
    | '-' :: rest => (true, rest)
    | rest => (false, rest)
  let whole := cs.takeWhile Text.isDigit
  let rest := cs.dropWhile Text.isDigit
  if whole = [] ∨ (whole.length ≠ 1 ∧ whole.head? = some '0') then none
  else
    let (places, rest) :=
      match rest with
      | '.' :: more => (some (more.takeWhile Text.isDigit), more.dropWhile Text.isDigit)
      | more => (none, more)
    if places = some [] then none
    else do
      let places := places.getD []
      let (exponent, rest) ← readExponent rest
      let d : Decimal := ⟨Text.digitsValue (whole ++ places), exponent - places.length⟩
      return (d.toNumber negative, rest)

mutual

/-- A value at the head of the text. -/
def readValue : (fuel : Nat) → List Char → Option (Value × List Char)
  | 0, _ => none
  | fuel + 1, cs =>
    match skipSpace cs with
    | '{' :: rest =>
      match skipSpace rest with
      | '}' :: rest => some (.object [], rest)
      | rest => readFields fuel [] rest
    | '[' :: rest =>
      match skipSpace rest with
      | ']' :: rest => some (.array [], rest)
      | rest => readItems fuel [] rest
    | '"' :: rest => (readString (rest.length + 1) [] rest).map fun (s, rest) => (.string s, rest)
    | cs =>
      match Text.dropWord "null".toList cs, Text.dropWord "true".toList cs,
          Text.dropWord "false".toList cs with
      | some rest, _, _ => some (.null, rest)
      | _, some rest, _ => some (.bool true, rest)
      | _, _, some rest => some (.bool false, rest)
      | none, none, none => (readNumber cs).map fun (n, rest) => (.number n, rest)

/-- The items of a list behind its bracket; `seen` holds those read, the last first. -/
def readItems : (fuel : Nat) → (seen : List Value) → List Char → Option (Value × List Char)
  | 0, _, _ => none
  | fuel + 1, seen, cs =>
    match readValue fuel cs with
    | none => none
    | some (item, rest) =>
      match skipSpace rest with
      | ',' :: rest => readItems fuel (item :: seen) rest
      | ']' :: rest => some (.array (item :: seen).reverse, rest)
      | _ => none

/-- The fields of a record behind its brace. -/
def readFields : (fuel : Nat) → (seen : Fields) → List Char → Option (Value × List Char)
  | 0, _, _ => none
  | fuel + 1, seen, cs =>
    match skipSpace cs with
    | '"' :: rest =>
      match readString (rest.length + 1) [] rest with
      | none => none
      | some (key, rest) =>
        match skipSpace rest with
        | ':' :: rest =>
          match readValue fuel rest with
          | none => none
          | some (item, rest) =>
            let seen := seen.set key item
            match skipSpace rest with
            | ',' :: rest => readFields fuel seen rest
            | '}' :: rest => some (.object seen.arranged, rest)
            | _ => none
        | _ => none
    | _ => none

end

/-- The value at the head of a text, and the text behind it. -/
def readHead (cs : List Char) : Option (Value × List Char) := readValue (cs.length + 1) cs

/-- The value that a text consists of. -/
def read (text : String) : Option Value :=
  match readHead text.toList with
  | some (value, rest) => if (skipSpace rest).isEmpty then some value else none
  | none => none

/-! ### Writing -/

/-- A hexadecimal digit. -/
def hexDigit (n : Nat) : Char := Char.ofNat (if n < 10 then n + 48 else n + 87)

/-- A character inside quotes. -/
def escape (c : Char) : String :=
  match c with
  | '"' => "\\\""
  | '\\' => "\\\\"
  | '\n' => "\\n"
  | '\r' => "\\r"
  | '\t' => "\\t"
  | '\x08' => "\\b"
  | '\x0c' => "\\f"
  | c =>
    if c.toNat < 32 then
      "\\u00" ++ String.ofList [hexDigit (c.toNat / 16), hexDigit (c.toNat % 16)]
    else String.ofList [c]

/-- A text in quotes. -/
def quote (s : String) : String :=
  s.toList.foldl (fun acc c => acc ++ escape c) "\"" ++ "\""

/-- A number that is not finite has no JSON form and is written as null. -/
def writeNumber (n : Number) : String := if n.isFinite then n.text else "null"

mutual

/-- A value whose lines, the first one apart, are indented by `indent`. -/
def writeAt (indent : String) : Value → String
  | .null => "null"
  | .bool true => "true"
  | .bool false => "false"
  | .number n => writeNumber n
  | .string s => quote s
  | .array [] => "[]"
  | .array items =>
    "[\n" ++ Text.join ",\n" (writeItems (indent ++ "  ") items) ++ "\n" ++ indent ++ "]"
  | .object [] => "\x7b\x7d"
  | .object fields =>
    "\x7b\n" ++ Text.join ",\n" (writeFields (indent ++ "  ") fields) ++ "\n" ++ indent ++ "\x7d"

/-- The items of a list, one text each. -/
def writeItems (indent : String) : List Value → List String
  | [] => []
  | item :: rest => (indent ++ writeAt indent item) :: writeItems indent rest

/-- The fields of a record, one text each. -/
def writeFields (indent : String) : List (String × Value) → List String
  | [] => []
  | (key, item) :: rest =>
    (indent ++ quote key ++ ": " ++ writeAt indent item) :: writeFields indent rest

end

/-- The indented JSON text of a value. -/
def write (value : Value) : String := writeAt "" value

end CorpusForge.Json
