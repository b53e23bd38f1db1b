import CorpusForge.Text.Search

/-!
# Paths

Paths are texts whose segments are separated by slashes. Joining and resolving normalises: empty
segments and single dots go, a double dot takes the segment before it away.

* `Path.normalize`, `Path.join`, `Path.resolve`;
* `Path.dirname`, `Path.basename`, `Path.extension`;
* `Path.segments`: the names on the way from the root to a resolved path.
-/

namespace CorpusForge.Path

/-- The segments of a normalised path, the last one first. `rooted` paths have nothing above
    their root. -/
def settle (rooted : Bool) : (settled : List (List Char)) → List (List Char) → List (List Char)
  | settled, [] => settled
  | settled, segment :: rest =>
    if segment = [] ∨ segment = ['.'] then settle rooted settled rest
    else if segment = ['.', '.'] then
      match settled with
      | [] => settle rooted (if rooted then [] else [segment]) rest
      | last :: before =>
        if last = ['.', '.'] then settle rooted (segment :: settled) rest
        else settle rooted before rest
    else settle rooted (segment :: settled) rest

/-- Segments with a slash between each two. -/
def withSlashes : List (List Char) → List Char
  | [] => []
  | [segment] => segment
  | segment :: rest => segment ++ '/' :: withSlashes rest

/-- A path without empty segments and dots. A slash at the end stays; nothing at all is a dot. -/
def normalize (path : String) : String :=
  let cs := path.toList
  let rooted := cs.head? == some '/'
  let body := withSlashes (settle rooted [] (Text.splitAt '/' cs)).reverse
  let body := if body = [] ∧ !rooted then ['.'] else body
  let body := if body ≠ [] ∧ cs.getLast? == some '/' then body ++ ['/'] else body
  String.ofList (if rooted then '/' :: body else body)

/-- A path from its parts, of which empty ones are left out. -/
def join (parts : List String) : String :=
  let parts := parts.filter (· ≠ "")
  if parts.isEmpty then "." else normalize (Text.join "/" parts)

/-- The path of a directory as seen from `cwd`: from the root on, without a slash at the end. -/
def resolve (cwd path : String) : String :=
  let full := if path.toList.head? = some '/' then path else cwd ++ "/" ++ path
  String.ofList ('/' :: withSlashes (settle true [] (Text.splitAt '/' full.toList)).reverse)

/-- The characters behind the last slash, and those up to it, both reversed; `none` without a
    slash. -/
def cutLast : (behind : List Char) → (reversed : List Char) → Option (List Char × List Char)
  | _, [] => none
  | behind, c :: rest => if c = '/' then some (behind, rest) else cutLast (c :: behind) rest

/-- The path that holds the last segment. Two slashes at the head stay when nothing else is there. -/
def dirname (path : String) : String :=
  let cs := path.toList
  let rooted := cs.head? == some '/'
  let trimmed := cs.reverse.dropWhile (· = '/')
  match cutLast [] trimmed with
  | none => if rooted then "/" else "."
  | some (_, []) => if rooted then "/" else "."
  | some (_, ['/']) => "//"
  | some (_, before) => String.ofList before.reverse

/-- The last segment. -/
def basename (path : String) : String :=
  let trimmed := path.toList.reverse.dropWhile (· = '/')
  String.ofList (trimmed.takeWhile (· ≠ '/')).reverse

/-- The last segment from its last dot on; empty without a dot behind another character, and for the
    two dots that lead upwards. -/
def extension (path : String) : String :=
  let reversed := (basename path).toList.reverse
  match reversed.dropWhile (· ≠ '.') with
  | '.' :: _ :: _ =>
    if reversed = ['.', '.'] then ""
    else String.ofList ('.' :: (reversed.takeWhile (· ≠ '.')).reverse)
  | _ => ""

/-- The names on the way from the root to a path. -/
def segments (path : String) : List String :=
  ((settle true [] (Text.splitAt '/' path.toList)).reverse).map String.ofList

/-- The first segment of a path that has more than one; `none` otherwise. -/
def head? (path : String) : Option String :=
  match Text.splitAt '/' path.toList with
  | first :: _ :: _ => if first = [] then none else some (String.ofList first)
  | _ => none

end CorpusForge.Path
