import CorpusForge.Config.Load
import CorpusForge.Disk
import CorpusForge.Text.Blank
import CorpusForge.Text.Identifier
import CorpusForge.Value.Json

/-!
# Configuration files

A configuration file is a row of statements that export plain values by name, one of them perhaps as
the default. A file may wrap its default in `defineConfig`, which it imports by name; the wrapper
means nothing, and a file that uses it can be read only once it is taken away. The extension of a
file decides how it is read (`ConfigFile.Format`).

* `ConfigFile.unwrap?`: a file without the wrapper;
* `ConfigFile.Format.exports?`: the exported values;
* `ConfigFile.candidate`: the value that is to be the configuration;
* `ConfigFile.load`: the configuration of a file on a disk.
-/

namespace CorpusForge

/-- The values that a file exports, by name; the default one is named `default`. -/
abbrev Exports := Fields

namespace ConfigFile

/-! ### The wrapper -/

/-- Skips white space. -/
def skip (cs : List Char) : List Char := cs.dropWhile Text.isBlank

/-- Skips white space, of which there must be some. -/
def skipSome : List Char → Option (List Char)
  | [] => none
  | c :: rest => if Text.isBlank c then some (skip rest) else none

/-- Skips white space, then a word. -/
def expect (word : String) (cs : List Char) : Option (List Char) :=
  Text.dropWord word.toList (skip cs)

/-- A quote of either kind, and the text behind it. -/
def dropQuote : List Char → Option (Char × List Char)
  | [] => none
  | c :: rest => if c = '"' ∨ c = '\x27' then some (c, rest) else none

/-- The rest of a text from the last line end of the white space at its head on; nothing is left
    when only white space follows, and `none` is the answer when something else follows in the
    same line. -/
def lineRest (cs : List Char) : Option (List Char) :=
  let blanks := cs.takeWhile Text.isBlank
  let rest := cs.dropWhile Text.isBlank
  if rest = [] then some []
  else
    match (blanks.reverse.takeWhile fun c => !Text.isLineEnd c).reverse,
        (blanks.reverse.dropWhile fun c => !Text.isLineEnd c) with
    | _, [] => none
    | behind, lineEnd :: _ => some (lineEnd :: behind ++ rest)

/-- What follows an import of the wrapper that fills its lines. Unless `lax`, the name of the package
    stands between two quotes of one kind. -/
def afterImport (lax : Bool) (cs : List Char) : Option (List Char) := do
  let rest ← expect "import" cs
  let rest ← expect "\x7b" rest
  let rest ← expect "defineConfig" rest
  let rest ← expect "\x7d" rest
  let rest ← expect "from" rest
  let (opening, rest) ← dropQuote (skip rest)
  let rest ← Text.dropWord "repo-synth".toList rest
  let (closing, rest) ← dropQuote rest
  let rest ← Text.dropWord ";".toList rest
  if lax || opening == closing then lineRest rest else none

/-- The text without the first import of the wrapper; `none` when there is none. `fresh` says that
    a line begins here. -/
def dropImport (lax fresh : Bool) (cs : List Char) : Option (List Char) :=
  let here := if fresh then afterImport lax cs else none
  match here, cs with
  | some rest, _ => some rest
  | none, [] => none
  | none, c :: rest => (dropImport lax (Text.isLineEnd c) rest).map (c :: ·)

/-- What follows the head of a wrapped default export. -/
def afterWrapper (cs : List Char) : Option (List Char) := do
  let rest ← Text.dropWord "export".toList cs
  let rest ← skipSome rest
  let rest ← Text.dropWord "default".toList rest
  let rest ← skipSome rest
  let rest ← Text.dropWord "defineConfig".toList rest
  expect "(" rest

/-- The text with the first wrapped default export unwrapped; `none` when there is none. -/
def dropWrapper (cs : List Char) : Option (List Char) :=
  match afterWrapper cs, cs with
  | some rest, _ => some ("export default (".toList ++ rest)
  | none, [] => none
  | none, c :: rest => (dropWrapper rest).map (c :: ·)

/-- The text of a file without the wrapper, when it both imports and uses it. -/
def unwrap? (lax : Bool) (source : String) : Option String := do
  let cs := source.toList
  let plain ← dropImport lax true cs
  let _ ← dropWrapper cs
  return String.ofList ((dropWrapper plain).getD plain)

/-! ### Exports -/

/-- A value, in parentheses or not, and the text behind it. -/
def readExpression : (depth : Nat) → List Char → Option (Value × List Char)
  | 0, _ => none
  | depth + 1, cs =>
    match skip cs with
    | '(' :: rest => do
      let (value, rest) ← readExpression depth rest
      let rest ← expect ")" rest
      return (value, rest)
    | cs => Json.readHead cs

/-- The end of a statement: a semicolon, a line end, or the end of the text. -/
def endStatement (cs : List Char) : Option (List Char) :=
  let rest := skip cs
  match rest with
  | [] => some []
  | ';' :: rest => some rest
  | rest => if (cs.takeWhile Text.isBlank).any Text.isLineEnd then some rest else none

/-- Words that cannot be declared as names. -/
def reserved : List String :=
  ["arguments", "await", "break", "case", "catch", "class", "const", "continue", "debugger",
   "default", "delete", "do", "else", "enum", "eval", "export", "extends", "false", "finally",
   "for", "function", "if", "implements", "import", "in", "instanceof", "interface", "let", "new",
   "null", "package", "private", "protected", "public", "return", "static", "super", "switch",
   "this", "throw", "true", "try", "typeof", "var", "void", "while", "with", "yield"]

/-- The word at the head of a text, and the text behind it. -/
def readWord (cs : List Char) : String × List Char :=
  (String.ofList (cs.takeWhile Identifier.continues), cs.dropWhile Identifier.continues)

/-- A word that may be declared as a name. -/
def isName (word : String) : Bool :=
  match word.toList with
  | [] => false
  | c :: _ => Identifier.begins c && !reserved.contains word

/-- The name that a statement exports: `default`, or the one it declares. -/
def readTarget (cs : List Char) : Option (String × List Char) :=
  match readWord cs with
  | ("default", rest) => some ("default", rest)
  | ("const", rest) => do
    let rest ← skipSome rest
    let (name, rest) := readWord rest
    let rest ← expect "=" rest
    if isName name then some (name, rest) else none
  | _ => none

/-- A statement: the name and the value that it exports, and the text behind it. -/
def readStatement (cs : List Char) : Option ((String × Value) × List Char) := do
  let rest ← Text.dropWord "export".toList cs
  let rest ← skipSome rest
  let (name, rest) ← readTarget rest
  let (value, rest) ← readExpression (rest.length + 1) rest
  let rest ← endStatement rest
  return ((name, value), rest)

/-- The statements of a text, `fuel` of them at most. No name may be exported twice; a semicolon alone
    exports nothing. -/
def readStatements : (fuel : Nat) → (seen : Exports) → List Char → Option Exports
  | 0, _, _ => none
  | fuel + 1, seen, cs =>
    match skip cs with
    | [] => some seen
    | ';' :: rest => readStatements fuel seen rest
    | cs =>
      match readStatement cs with
      | none => none
      | some ((name, value), rest) =>
        if (seen.get? name).isSome then none
        else readStatements fuel (seen ++ [(name, value)]) rest

/-- The values that a text exports. -/
def readExports? (source : String) : Option Exports :=
  readStatements (source.toList.length + 1) [] source.toList

/-! ### Formats -/

/-- How a file is read. -/
inductive Format where
  /-- A row of statements. -/
  | module
  /-- A row of statements none of which may export anything. -/
  | script
  /-- No statements at all. -/
  | data
  /-- It is not known how, unless the wrapper is taken away. -/
  | foreign
  deriving DecidableEq, Repr

namespace Format

/-- The format that the extension of a path stands for. -/
def ofPath (path : String) : Format :=
  match Path.extension path with
  | "" | ".js" | ".mjs" | ".ts" | ".mts" => module
  | ".cjs" | ".cts" => script
  | ".json" | ".wasm" => data
  | _ => foreign

/-- The values that a file of a format exports, without the wrapper if need be. The name of the wrapper
    cannot be exported where it is imported. -/
def exports? (format : Format) (source : String) : Option Exports :=
  match format with
  | module =>
    match readExports? source with
    | some exported => some exported
    | none => ((unwrap? false source).bind readExports?).filter fun exported =>
        (exported.get? "defineConfig").isNone
  | script => if skip source.toList = [] then some [] else none
  | data => none
  | foreign => (unwrap? true source).bind readExports?

end Format

/-- An exported value that is not null. -/
def given? (name : String) (exported : Exports) : Option Value :=
  match exported.get? name with
  | some .null => none
  | found => found

/-- The value that is to be the configuration: the default, else the one named `config`, else all of
    them by name. -/
def candidate (exported : Exports) : Value :=
  match given? "default" exported, given? "config" exported with
  | some value, _ => value
  | none, some value => value
  | none, none => .object (exported.mergeSort fun a b => !Text.precedes b.1 a.1)

/-! ### Loading -/

/-- What looking for a configuration file gives: no configuration where there is no file, or where
    it cannot be read, which is told by a warning. -/
structure Outcome where
  config : Except Failure (Option Config)
  warnings : List String := []

/-- Why a file cannot be read: it is none, its extension is unknown, it exports values in vain, it
    needs the wrapper's package, or it is malformed. -/
def reason (path : String) (source : Option String) : String :=
  match source, Format.ofPath path with
  | none, _ => s!"{path} is not a file"
  | some _, .foreign => s!"Unknown file extension \"{Path.extension path}\" for {path}"
  | some _, .data => s!"{path} is no module"
  | some _, .script => "Unexpected token 'export'"
  | some text, .module =>
    if (dropImport false true text.toList).isSome then
      s!"Cannot find package 'repo-synth' imported from {path}"
    else "Unexpected end of input"

/-- The warning about a file that cannot be read; `full` is its path from the root on. -/
def warning (path full : String) (source : Option String) : String :=
  s!"Failed to load config at {path}: {reason full source}"

/-- The configuration in the file at a path as seen from `cwd`. -/
def load (disk : Disk) (env : Environment) (cwd path : String) : Outcome :=
  let full := Path.resolve cwd path
  let segments := Path.segments full
  if !disk.exists? segments then ⟨.ok none, []⟩
  else
    let source := disk.read? segments
    match source.bind (Format.ofPath full).exports? with
    | some exported => ⟨(Config.load env (candidate exported)).map some, []⟩
    | none => ⟨.ok none, [warning path full source]⟩

end ConfigFile

end CorpusForge
