import CorpusForge.Path

/-!
# Commit messages

A message has a type and a template, into which the component that the commit touches is put. The
component may use marks of its own: a doubled dollar sign is one, and a dollar sign before an
ampersand, a backquote or an apostrophe stands for the mark replaced, the text before it, or the
text behind it.
-/

namespace CorpusForge

/-- A type of commits, and the template of their messages. -/
structure CommitType where
  type : String
  template : String
  deriving DecidableEq, Repr

namespace CommitType

/-- The types that commits are drawn from. -/
def all : List CommitType :=
  [⟨"feat", "Add \x7b\x7d"⟩,
   ⟨"fix", "Fix bug in \x7b\x7d"⟩,
   ⟨"refactor", "Refactor \x7b\x7d"⟩,
   ⟨"docs", "Update documentation for \x7b\x7d"⟩,
   ⟨"test", "Add tests for \x7b\x7d"⟩,
   ⟨"chore", "Update dependencies"⟩]

/-- The mark that the component replaces. -/
def mark : List Char := ['\x7b', '\x7d']

/-- The component with its own marks resolved. -/
def expand (before after : List Char) : List Char → List Char
  | '$' :: '$' :: rest => '$' :: expand before after rest
  | '$' :: '&' :: rest => mark ++ expand before after rest
  | '$' :: '\x60' :: rest => before ++ expand before after rest
  | '$' :: '\x27' :: rest => after ++ expand before after rest
  | c :: rest => c :: expand before after rest
  | [] => []

/-- The template with its first mark replaced by the component. -/
def fill (template component : String) : String :=
  match Text.cutAt mark template.toList with
  | some (before, after) =>
    String.ofList (before ++ expand before after component.toList ++ after)
  | none => template

/-- The message of a commit that touches a component. -/
def message (t : CommitType) (component : String) : String :=
  t.type ++ ": " ++ fill t.template component

end CommitType

/-- The component of a file: its first directory, or the core of the repository. -/
def componentOf (path : String) : String := (Path.head? path).getD "core"

end CorpusForge
