import Mathlib.Control.Monad.Basic
import CorpusForge.Artifact.Render

/-!
# Templates are read once

A template that was read is kept, and what is kept is what the shelf has. So a text does not depend
on what was rendered before it.

* `Artifact.render_fst_eq`: the text of a file, by the template that is kept or on the shelf;
* `Artifact.text?_render`: the templates that are kept then;
* `Artifact.render_fst_of_holds`: as long as the shelf stays the same, what is kept does not matter.
-/

namespace CorpusForge

/-- The templates kept are those of the shelf. -/
def Shelf.Holds (shelf : Shelf) (kept : Kept) : Prop :=
  ∀ template ∈ kept, shelf.read template.1 = some template.2

namespace Artifact

variable {shelf : Shelf} {kept : Kept}

/-! ### One rendering -/

/-- The text of a template that is kept. -/
def text? (template : String) (kept : Kept) : Option String :=
  (kept.find? fun entry => entry.1 == template).map Prod.snd

/-- What is fetched is the text that is kept, or else the one on the shelf. -/
theorem fetch_fst_eq (shelf : Shelf) (template : String) (kept : Kept) :
    (fetch shelf template kept).1 =
      match (text? template kept).or (shelf.read template) with
      | none => .error (.templateMissing shelf.dir template)
      | some text => .ok text := by
  rw [fetch, text?]
  cases kept.find? fun entry => entry.1 == template with
  | some entry => rfl
  | none => cases shelf.read template <;> rfl

/-- What is fetched from the shelf is kept, and what is kept stays. -/
theorem text?_fetch (shelf : Shelf) (template other : String) (kept : Kept) :
    text? other (fetch shelf template kept).2 =
      (text? other kept).or (if template = other then shelf.read other else none) := by
  rw [fetch]
  cases hkept : kept.find? fun entry => entry.1 == template with
  | some entry =>
    by_cases heq : template = other
    · subst heq
      simp [text?, hkept]
    · simp [heq]
  | none =>
    by_cases heq : template = other
    · subst heq
      cases shelf.read template <;> simp [text?, hkept]
    · cases shelf.read template <;> simp [text?, heq]

/-- The text of a file is made from the template that is kept, or else from the one on the shelf. -/
theorem render_fst_eq (shelf : Shelf) (path : String) (role : Role) (context : RenderContext)
    (kept : Kept) :
    (render shelf path role context kept).1 =
      match template? path role context.spec.language context.archetype with
      | .error misuse => .error (.misuse misuse)
      | .ok none => .error (.failure (.artifactUnknown path role))
      | .ok (some template) =>
        match (text? template kept).or (shelf.read template) with
        | none => .error (.failure (.templateMissing shelf.dir template))
        | some text => (fill template path context text).mapError .failure := by
  rw [render]
  rcases template? path role context.spec.language context.archetype with _ | _ | template
  · rfl
  · rfl
  · have hfetch := fetch_fst_eq shelf template kept
    dsimp only
    revert hfetch
    rcases fetch shelf template kept with ⟨_ | _, _⟩ <;>
      cases (text? template kept).or (shelf.read template) <;> rintro ⟨⟩ <;> rfl

/-- A rendering keeps what is kept, and its template when it is read from the shelf. Whether the
    template can be filled in does not matter. -/
theorem text?_render (shelf : Shelf) (path : String) (role : Role) (context : RenderContext)
    (kept : Kept) (other : String) :
    text? other (render shelf path role context kept).2 =
      (text? other kept).or
        (if template? path role context.spec.language context.archetype = .ok (some other) then
          shelf.read other else none) := by
  rw [render]
  rcases template? path role context.spec.language context.archetype with _ | _ | template
  · simp
  · simp
  · have hfetch := text?_fetch shelf template other kept
    simp only [Except.ok.injEq, Option.some_inj]
    revert hfetch
    rcases fetch shelf template kept with ⟨_ | _, _⟩ <;> exact id

/-! ### A shelf that stays the same -/

theorem holds_nil (shelf : Shelf) : shelf.Holds [] := fun _ h => absurd h List.not_mem_nil

/-- What is fetched is what the shelf has. -/
theorem fetch_fst_of_holds (h : shelf.Holds kept) (template : String) :
    (fetch shelf template kept).1 = (fetch shelf template []).1 := by
  rw [fetch, fetch]
  cases hfind : kept.find? fun entry => entry.1 == template with
  | none =>
    simp only [List.find?_nil]
    cases shelf.read template <;> rfl
  | some entry =>
    -- a template that is kept has the text that would be read
    have hname : entry.1 = template := by simpa using List.find?_some hfind
    have hread := h entry (List.mem_of_find?_eq_some hfind)
    rw [hname] at hread
    simp [hread]

theorem holds_fetch_snd (h : shelf.Holds kept) (template : String) :
    shelf.Holds (fetch shelf template kept).2 := by
  rw [fetch]
  split
  · exact h
  · split
    next text hread => exact List.forall_mem_cons.2 ⟨hread, h⟩
    next => exact h

/-- A text does not depend on the templates that were kept before. -/
theorem render_fst_of_holds (h : shelf.Holds kept) (path : String) (role : Role)
    (context : RenderContext) :
    (render shelf path role context kept).1 = (render shelf path role context []).1 := by
  rw [render, render]
  split
  next => rfl
  next => rfl
  next template _ =>
    -- the text depends on what was fetched alone
    have hfetch := fetch_fst_of_holds h template
    revert hfetch
    rcases fetch shelf template kept with ⟨_ | _, _⟩ <;>
      rcases fetch shelf template [] with ⟨_ | _, _⟩ <;> rintro ⟨⟩ <;> rfl

theorem holds_render_snd (h : shelf.Holds kept) (path : String) (role : Role)
    (context : RenderContext) : shelf.Holds (render shelf path role context kept).2 := by
  rw [render]
  split
  next => exact h
  next => exact h
  next template _ =>
    have hfetch := holds_fetch_snd h template
    revert hfetch
    rcases fetch shelf template kept with ⟨_ | _, _⟩ <;> exact id

end Artifact

end CorpusForge
