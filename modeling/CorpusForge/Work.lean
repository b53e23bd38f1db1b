import CorpusForge.Artifact.Render
import CorpusForge.History.Replay

/-!
# Work

A repository is made request by request: a directory is to be made, a file to be written, a
template to be rendered, or the version-control backend is called. What comes next depends on the
answers (`Work`), and between two requests of one work there may be requests of others.

The disk and the version-control backend are those of a `Host`, which may refuse anything. The
templates that were read are shared by all works of a run.

* `Request`, `Request.Answer`: what is asked, and what comes back;
* `Host.answer`: a request answered on what the works share;
* `Work.perform`: a whole work with nothing in between.
-/

namespace CorpusForge

/-- What the making of a repository asks of what is around it. -/
inductive Request where
  /-- A directory and those above it are to be made. -/
  | makeDirs (path : String)
  /-- A file is to be written. -/
  | writeFile (path text : String)
  /-- An artifact is to be rendered with the templates of a shelf. -/
  | render (shelf : Shelf) (path : String) (role : Role) (context : RenderContext)
  /-- The version-control backend is called for the repository at a path. -/
  | call (path : String) (call : Call)

/-- What a request is answered with. -/
abbrev Request.Answer : Request → Type
  | .makeDirs _ => Except Foreign Unit
  | .writeFile _ _ => Except Foreign Unit
  | .render _ _ _ _ => Except Mishap String
  | .call _ _ => Except Thrown Unit

/-- Work that ends with an `α`. -/
inductive Work (α : Type) where
  /-- Nothing is left to be asked. -/
  | done (result : α)
  /-- A request, and the work that is left after its answer. -/
  | ask (request : Request) (next : request.Answer → Work α)

namespace Work

variable {α β : Type}

/-- One work after the other. -/
protected def bind : Work α → (α → Work β) → Work β
  | done a, f => f a
  | ask request next, f => ask request fun answer => (next answer).bind f

instance : Monad Work where
  pure := done
  bind := Work.bind

end Work

/-- What a repository is made on. -/
structure Host (σ : Type) where
  /-- Makes a directory and those above it. -/
  makeDirs : String → σ → Except Foreign Unit × σ
  /-- Writes a file. -/
  writeFile : String → String → σ → Except Foreign Unit × σ
  /-- Calls the version-control backend for the repository at a path. -/
  call : String → Call → σ → Except Thrown Unit × σ

/-- What all works share: the templates read so far and the state of the host. -/
structure Shared (σ : Type) where
  kept : Kept := []
  host : σ

/-- Answers a request. -/
def Host.answer {σ : Type} (host : Host σ) :
    (request : Request) → Shared σ → request.Answer × Shared σ
  | .makeDirs path, s =>
    let (answer, state) := host.makeDirs path s.host
    (answer, ⟨s.kept, state⟩)
  | .writeFile path text, s =>
    let (answer, state) := host.writeFile path text s.host
    (answer, ⟨s.kept, state⟩)
  | .render shelf path role context, s =>
    let (answer, kept) := Artifact.render shelf path role context s.kept
    (answer, ⟨kept, s.host⟩)
  | .call path c, s =>
    let (answer, state) := host.call path c s.host
    (answer, ⟨s.kept, state⟩)

/-- Does a whole work. -/
def Work.perform {σ α : Type} (host : Host σ) : Work α → Shared σ → α × Shared σ
  | .done result, s => (result, s)
  | .ask request next, s =>
    let (answer, s) := host.answer request s
    (next answer).perform host s

end CorpusForge
