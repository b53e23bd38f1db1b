import CorpusForge.Proofs.Artifact.Render
import CorpusForge.Proofs.Text.Reference

/-!
# Templates are filled once

A template has one split into characters and placeholders. Rendering puts a value in the place of
each placeholder and leaves the rest alone, so that a value which looks like a placeholder stays as
it is. When names have no value, the first of them is told.

* `Artifact.fill_eq_match`: a template with its values put in;
* `Artifact.fills_once`: a file that is rendered from a template.
-/

namespace CorpusForge

/-- Two closing braces are not part of a placeholder's name. -/
theorem placeholderStyle_endsNames : placeholderStyle.EndsNames :=
  ⟨'\x7d', ['\x7d'], rfl, rfl⟩

namespace Artifact

theorem fill_eq_match (template path : String) (context : RenderContext) (text : String) :
    fill template path context text =
      match (ReferenceStyle.names (placeholderStyle.scan text.toList)).find?
        fun name => (value? path context name).isNone with
      | none => .ok (String.ofList ((placeholderStyle.scan text.toList).flatMap
          (Piece.filled (value? path context))))
      | some name => .error (.placeholderUnknown template name) := by
  rw [fill, ReferenceStyle.expand_eq_match]
  cases (ReferenceStyle.names (placeholderStyle.scan text.toList)).find?
    fun name => (value? path context name).isNone <;> rfl

/-- Templates are filled once. A file that has a template is made from the text that is kept of it,
    or else from the one on the shelf. That text has one split into characters and placeholders, and
    what is made of it are the characters, with the values as they are in the places of the
    placeholders. When there is a placeholder without a value nothing is made, and the first such
    one is told. -/
theorem fills_once {shelf : Shelf} {kept : Kept} {path : String} {role : Role}
    {context : RenderContext} {template text : String}
    (htemplate : template? path role context.spec.language context.archetype =
      .ok (some template))
    (htext : (text? template kept).or (shelf.read template) = some text) :
    ∃ pieces, (∀ other, placeholderStyle.Splits text.toList other ↔ pieces = other) ∧
      (render shelf path role context kept).1 =
        match (ReferenceStyle.names pieces).find? fun name => (value? path context name).isNone with
        | none => .ok (String.ofList (pieces.flatMap (Piece.filled (value? path context))))
        | some name => .error (.failure (.placeholderUnknown template name)) := by
  refine ⟨placeholderStyle.scan text.toList,
    fun other => ReferenceStyle.splits_iff placeholderStyle_endsNames, ?_⟩
  rw [render_fst_eq, htemplate]
  dsimp only
  rw [htext]
  dsimp only
  rw [fill_eq_match]
  cases (ReferenceStyle.names (placeholderStyle.scan text.toList)).find?
    fun name => (value? path context name).isNone <;> rfl

/-- A name that is in three braces, and is a placeholder itself. -/
theorem fills_once_braces :
    let name := "\x7b\x7byear\x7d\x7d$&"
    let spec : Spec := ⟨5001, name, "tools", some "tool", "go", 10, 2, []⟩
    let shelf : Shelf := ⟨"templates", fun _ => some "\x7b\x7b\x7brepoName\x7d\x7d\x7d"⟩
    template? "LICENSE" .artifact spec.language .cliTool = .ok (some "LICENSE.tmpl") ∧
      (text? "LICENSE.tmpl" []).or (shelf.read "LICENSE.tmpl") =
        some "\x7b\x7b\x7brepoName\x7d\x7d\x7d" ∧
      (render shelf "LICENSE" .artifact ⟨spec, .cliTool, 2024⟩ []).1 =
        .ok "\x7b\x7b\x7byear\x7d\x7d$&\x7d" := by
  intro name spec shelf
  have htemplate : template? "LICENSE" .artifact spec.language .cliTool =
      .ok (some "LICENSE.tmpl") := by decide
  have htext : (text? "LICENSE.tmpl" []).or (shelf.read "LICENSE.tmpl") =
      some "\x7b\x7b\x7brepoName\x7d\x7d\x7d" := rfl
  obtain ⟨pieces, hsplits, hrender⟩ :=
    @fills_once shelf [] _ .artifact ⟨spec, .cliTool, 2024⟩ _ _ htemplate htext
  -- the outer braces stand for themselves
  obtain rfl : pieces = [.literal '\x7b', .reference "repoName".toList, .literal '\x7d'] :=
    (hsplits _).1 ((ReferenceStyle.splits_iff placeholderStyle_endsNames).2 (by decide))
  refine ⟨htemplate, htext, hrender.trans ?_⟩
  have hvalue : value? "LICENSE" ⟨spec, .cliTool, 2024⟩ (String.ofList "repoName".toList) =
      some name := by rw [String.ofList_toList]; rfl
  simp only [ReferenceStyle.names, List.filterMap_cons, List.filterMap_nil, List.find?_cons,
    List.find?_nil, List.flatMap_cons, List.flatMap_nil, Piece.filled, hvalue, Option.isNone_some,
    Option.getD_some]
  exact congrArg Except.ok (by decide)

end Artifact

end CorpusForge
