import CorpusForge.Proofs.Artifact.Catalog
import CorpusForge.Proofs.Artifact.Render

/-!
# What is kept of changing templates

Templates may be written and removed while files are rendered from them. Still all the files that
are made from one template are made from one text: what the first of their renderings that could
read the template found. A rendering that could not read it keeps nothing, and one that could not
fill it in changes nothing.

A file without a template is told as such, but only where templates are listed at all. For a
language that is called like something every record inherits, the listing itself goes wrong.

* `Desk`, `Deed`: a shelf at work, and what happens there;
* `Artifact.found`: what the renderings of a template find on the shelf;
* `Desk.text?_after`: what is kept after a series of deeds;
* `Artifact.renders_first_found`: what a file is made from;
* `Artifact.render_unlisted_constructor`: a file that has no template in a language called
  `constructor`.
-/

namespace CorpusForge

/-- What is done while files are rendered: a template is written or removed, or a file is
    rendered. -/
inductive Deed where
  | write (template text : String)
  | remove (template : String)
  | render (path : String) (role : Role) (context : RenderContext)

/-- A shelf, and the templates that are kept from it. -/
structure Desk where
  shelf : Shelf
  kept : Kept

namespace Shelf

/-- The shelf with a template written anew. -/
def write (template text : String) (shelf : Shelf) : Shelf where
  dir := shelf.dir
  read name := if name = template then some text else shelf.read name

/-- The shelf without a template. -/
def remove (template : String) (shelf : Shelf) : Shelf where
  dir := shelf.dir
  read name := if name = template then none else shelf.read name

end Shelf

namespace Desk

/-- The desk after a deed. -/
def perform (desk : Desk) : Deed → Desk
  | .write template text => ⟨desk.shelf.write template text, desk.kept⟩
  | .remove template => ⟨desk.shelf.remove template, desk.kept⟩
  | .render path role context =>
    ⟨desk.shelf, (Artifact.render desk.shelf path role context desk.kept).2⟩

/-- The desk after a series of deeds. -/
def after (desk : Desk) (deeds : List Deed) : Desk := deeds.foldl perform desk

end Desk

namespace Artifact

/-- What the renderings of files from a template find on the shelf, in order. -/
def found (template : String) : Shelf → List Deed → List String
  | _, [] => []
  | shelf, .write name text :: rest => found template (shelf.write name text) rest
  | shelf, .remove name :: rest => found template (shelf.remove name) rest
  | shelf, .render path role context :: rest =>
    (if template? path role context.spec.language context.archetype = .ok (some template) then
      shelf.read template else none).toList ++ found template shelf rest

end Artifact

namespace Desk

open Artifact

/-- A template is kept as it was, or else as the first rendering finds it that can read it. -/
theorem text?_after (desk : Desk) (deeds : List Deed) (template : String) :
    text? template (desk.after deeds).kept =
      (text? template desk.kept).or (found template desk.shelf deeds).head? := by
  induction deeds generalizing desk with
  | nil => rw [after, List.foldl_nil, found, List.head?_nil, Option.or_none]
  | cons deed rest ih =>
    have hafter : desk.after (deed :: rest) = (desk.perform deed).after rest := rfl
    rw [hafter, ih]
    cases deed with
    | write name text => rfl
    | remove name => rfl
    | render path role context =>
      rw [perform, found, text?_render, Option.or_assoc, List.head?_append, Option.head?_toList]

/-- Of a series of deeds in two parts, the second one goes on from the shelf that the first one
    leaves. -/
theorem found_append (template : String) (desk : Desk) (deeds more : List Deed) :
    found template desk.shelf (deeds ++ more) =
      found template desk.shelf deeds ++ found template (desk.after deeds).shelf more := by
  induction deeds generalizing desk with
  | nil => rfl
  | cons deed rest ih =>
    have hrest := ih (desk.perform deed)
    cases deed with
    | write name text => exact hrest
    | remove name => exact hrest
    | render path role context =>
      rw [List.cons_append, found, found, List.append_assoc]
      exact congrArg _ hrest

theorem dir_after (desk : Desk) (deeds : List Deed) :
    (desk.after deeds).shelf.dir = desk.shelf.dir := by
  induction deeds generalizing desk with
  | nil => rfl
  | cons deed rest ih =>
    have hdir : (desk.perform deed).shelf.dir = desk.shelf.dir := by cases deed <;> rfl
    exact (ih (desk.perform deed)).trans hdir

end Desk

namespace Artifact

/-- What is found of a template by the end of a rendering from it: what was kept before, or what is
    on the shelf now. -/
theorem head?_found_append_render (shelf : Shelf) (deeds : List Deed) {path template : String}
    {role : Role} {context : RenderContext}
    (h : template? path role context.spec.language context.archetype = .ok (some template)) :
    (found template shelf (deeds ++ [.render path role context])).head? =
      (text? template ((Desk.mk shelf []).after deeds).kept).or
        (((Desk.mk shelf []).after deeds).shelf.read template) := by
  have happend := Desk.found_append template ⟨shelf, []⟩ deeds [.render path role context]
  rw [happend, List.head?_append, Desk.text?_after]
  simp [found, h, text?]

/-- All files are made from what was found first. Let a desk on which nothing is kept see any
    series of deeds, and then a rendering. A file that has no template fails. One that has a
    template is made from what the first of the renderings from it, this one included, found that
    could read it, whatever becomes of the template; it fails when none could. That is also what is
    kept then of any template, whether or not it could be filled in; and it is found by a rendering
    when the template is on the shelf, and stays the same from then on. Whether there is a template
    can be told of every file, except of one other than a migration in a language that has a name
    which every record inherits: there the rendering goes wrong before it looks for the file. -/
theorem renders_first_found (shelf : Shelf) (deeds : List Deed) (path : String) (role : Role)
    (context : RenderContext) :
    let desk := (Desk.mk shelf []).after deeds
    let told := deeds ++ [.render path role context]
    let source := template? path role context.spec.language context.archetype
    ((render desk.shelf path role context desk.kept).1 =
      match source with
      | .error misuse => .error (.misuse misuse)
      | .ok none => .error (.failure (.artifactUnknown path role))
      | .ok (some template) =>
        match (found template shelf told).head? with
        | none => .error (.failure (.templateMissing shelf.dir template))
        | some text => (fill template path context text).mapError .failure) ∧
    ((∃ misuse, source = .error misuse) ↔
      role ≠ .migration ∧ Fields.isInherited context.spec.language = true) ∧
    (∀ template, text? template ((Desk.mk shelf []).after told).kept =
      (found template shelf told).head?) ∧
    (∀ template, source = .ok (some template) → (desk.shelf.read template).isSome →
      (found template shelf told).head?.isSome) ∧
    ∀ template text, (found template shelf told).head? = some text →
      ∀ more, (found template shelf (told ++ more)).head? = some text := by
  intro desk told source
  refine ⟨?_, template?_eq_error_iff, fun template => ?_, fun template hsource hread => ?_,
    fun template text hfound more => ?_⟩
  · rw [render_fst_eq]
    change (match source with | .error _ => _ | .ok none => _ | .ok (some template) => _) = _
    rcases hsource : source with misuse | _ | template
    · rfl
    · rfl
    · have hdir : desk.shelf.dir = shelf.dir := Desk.dir_after ⟨shelf, []⟩ deeds
      dsimp only
      rw [head?_found_append_render shelf deeds hsource]
      cases (text? template desk.kept).or (desk.shelf.read template) with
      | none => simp only [hdir]
      | some text => rfl
  · exact Desk.text?_after ⟨shelf, []⟩ told template
  · rw [head?_found_append_render shelf deeds hsource, Option.isSome_or, hread, Bool.or_true]
  · rw [Desk.found_append template ⟨shelf, []⟩ told more, List.head?_append, hfound]
    rfl

/-- In a language that has the name of a thing which every record inherits, a file without a
    template is not told as one, and a file with a template keeps nothing of it. -/
theorem render_unlisted_constructor :
    let spec : Spec := ⟨5001, "repo-05001-tool", "tools", some "tool", "constructor", 10, 2, []⟩
    let context : RenderContext := ⟨spec, .cliTool, 2024⟩
    (render .bundled "nope.txt" .artifact context []).1 ≠
      .error (.failure (.artifactUnknown "nope.txt" .artifact)) ∧
    (render .bundled "nope.txt" .artifact context []).1 = .error (.misuse .noManifests) ∧
    (render .bundled "README.md" .artifact context []).2 = [] := by
  intro spec context
  have hsource : ∀ path, template? path .artifact "constructor" .cliTool = .error .noManifests :=
    fun path => rfl
  have htold : (render .bundled "nope.txt" .artifact context []).1 =
      .error (.misuse .noManifests) := by
    rw [render, hsource]
  refine ⟨fun heq => ?_, htold, by rw [render, hsource]⟩
  rw [htold] at heq
  exact Mishap.noConfusion (Except.error.inj heq)

end Artifact

end CorpusForge
