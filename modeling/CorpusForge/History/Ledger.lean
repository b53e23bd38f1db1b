import CorpusForge.History.Replay

/-!
# Ledgers

A version-control backend that makes no history but keeps the calls it accepts, repository by
repository. A script may let it refuse a call: the one with a given number among the calls of a
kind.
-/

namespace CorpusForge

/-- The kind of a call. -/
inductive Method where
  | init
  | setIdentity
  | stage
  | commit
  deriving DecidableEq, Repr

namespace Method

def ofText? : String → Option Method
  | "init" => some init
  | "setIdentity" => some setIdentity
  | "stage" => some stage
  | "commit" => some commit
  | _ => none

end Method

/-- The kind of a call. -/
def Call.method : Call → Method
  | init => .init
  | setIdentity _ => .setIdentity
  | stage _ => .stage
  | commit _ _ => .commit

/-- A refusal that is to happen: after `after` more calls of a kind. -/
structure Script where
  method : Method
  after : Nat
  thrown : Thrown

/-- What a backend keeps about one repository. -/
structure Book where
  /-- The accepted calls, the last one first. -/
  accepted : List Call := []
  script : Option Script := none

namespace Book

/-- Accepts a call, or refuses it as the script says. -/
def call (book : Book) (c : Call) : Except Thrown Unit × Book :=
  match book.script with
  | some script =>
    if script.method = c.method then
      match script.after with
      | 0 => (.error script.thrown, { book with script := none })
      | n + 1 =>
        (.ok (), { accepted := c :: book.accepted, script := some { script with after := n } })
    else (.ok (), { book with accepted := c :: book.accepted })
  | none => (.ok (), { book with accepted := c :: book.accepted })

/-- The accepted calls in order. -/
def calls (book : Book) : List Call := book.accepted.reverse

end Book

/-- The books of the repositories that were called for, the latest first, and the script of each
    repository, by the last segment of its path. -/
structure Ledger where
  books : List (String × Book) := []
  scripts : String → Option Script := fun _ => none

namespace Ledger

/-- Lets the book of a repository answer; a repository that was not called for gets a book. -/
def answer (script : Option Script) (path : String) (c : Call) :
    List (String × Book) → Except Thrown Unit × List (String × Book)
  | [] =>
    let (result, book) := Book.call { script } c
    (result, [(path, book)])
  | (key, book) :: rest =>
    if key = path then
      let (result, book) := book.call c
      (result, (key, book) :: rest)
    else
      let (result, rest) := answer script path c rest
      (result, (key, book) :: rest)

/-- A call for the repository at a path. -/
def call (ledger : Ledger) (path : String) (c : Call) : Except Thrown Unit × Ledger :=
  let (result, books) := answer (ledger.scripts (Path.basename path)) path c ledger.books
  (result, { ledger with books })

end Ledger

end CorpusForge
