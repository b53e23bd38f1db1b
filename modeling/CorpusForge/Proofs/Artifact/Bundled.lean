import CorpusForge.Proofs.Artifact.Catalog
import CorpusForge.Proofs.Artifact.Render
import CorpusForge.Proofs.Text

/-!
# The bundled templates are complete

Every artifact that is listed is rendered from a bundled template. A bundled template names only
values that a repository has with a template and a toolchain. So with the bundled templates every
artifact is rendered.

* `Artifact.isAnswered_bundled`: the values that the templates name;
* `Artifact.exists_render_bundled`: the rendering.
-/

namespace CorpusForge

namespace Artifact

/-! ### Values -/

/-- The names that have a value in every repository with a template and a toolchain. -/
def placeholders : List String :=
  ["repoName", "template", "archetype", "languageLabel", "installCommand", "testCommand",
   "buildCommand", "targetLines", "year", "databaseName", "migrationId", "table"]

/-- The table of a migration is one of those that take turns. -/
theorem exists_migrationTable (number : Int) :
    ∃ table, migrationTables[(number % 10).toNat]? = some table := by
  have hindex : (number % 10).toNat < migrationTables.length := by
    have hlength : migrationTables.length = 10 := rfl
    omega
  exact ⟨_, List.getElem?_eq_getElem hindex⟩

theorem exists_value {context : RenderContext} {template : String} {toolchain : Toolchain}
    (htemplate : context.spec.template = some template)
    (htoolchain : Toolchain.of? context.spec.language = some toolchain) (path : String) :
    ∀ name ∈ placeholders, ∃ value, value? path context name = some value := by
  have htable := exists_migrationTable (migrationNumber path)
  have htold {f : Toolchain → String} : ∃ value,
      (Toolchain.of? context.spec.language).map f = some value :=
    ⟨f toolchain, by rw [htoolchain, Option.map_some]⟩
  simp only [placeholders, List.forall_mem_cons]
  exact ⟨⟨_, rfl⟩, ⟨_, htemplate⟩, ⟨_, rfl⟩, htold, htold, htold, htold, ⟨_, rfl⟩,
    ⟨_, rfl⟩, ⟨_, rfl⟩, ⟨_, rfl⟩, htable, List.forall_mem_nil _⟩

/-- A piece of a template that names a value names one of those. -/
def isKnown : Piece → Bool
  | .literal _ => true
  | .reference name => placeholders.contains (String.ofList name)

/-- A template all of whose references have a value. -/
def IsAnswered (text : String) : Prop := (placeholderStyle.scan text.toList).all isKnown = true

theorem exists_fill_of_isAnswered {text : String} (h : IsAnswered text) {context : RenderContext}
    {kind : String} (htemplate : context.spec.template = some kind) {toolchain : Toolchain}
    (htoolchain : Toolchain.of? context.spec.language = some toolchain) (template path : String) :
    ∃ filled, fill template path context text = .ok filled := by
  have hvalues : ∀ name, .reference name ∈ placeholderStyle.scan text.toList →
      ∃ value, value? path context (String.ofList name) = some value := fun name hmem => by
    have hknown := List.all_eq_true.1 h _ hmem
    exact exists_value htemplate htoolchain path _ (List.contains_iff_mem.1 hknown)
  rw [fill, ReferenceStyle.expand, ReferenceStyle.fill_eq hvalues]
  exact ⟨_, rfl⟩

/-! ### The templates -/

/-- The characters of lines, line by line. -/
inductive Spells : List String → List (List Char) → Prop where
  | nil : Spells [] []
  | cons {cs : List Char} {lines : List String} {rest : List (List Char)}
      (h : Spells lines rest) : Spells (String.ofList cs :: lines) (cs :: rest)

theorem toList_unlines_of_spells {lines : List String} {spelled : List (List Char)}
    (h : Spells lines spelled) :
    (Text.unlines lines).toList = spelled.flatMap fun cs => cs ++ ['\n'] := by
  rw [Text.toList_unlines]
  induction h with
  | nil => rfl
  | cons _ ih => rw [List.flatMap_cons, List.flatMap_cons, ih, String.toList_ofList]

theorem isAnswered_unlines {lines : List String} {spelled : List (List Char)}
    (h : Spells lines spelled)
    (hknown : (placeholderStyle.scan (spelled.flatMap fun cs => cs ++ ['\n'])).all isKnown = true) :
    IsAnswered (Text.unlines lines) := by
  rw [IsAnswered, toList_unlines_of_spells h]
  exact hknown

/-- The bundled templates name only values that there are. -/
theorem isAnswered_bundled : ∀ template ∈ Template.bundled, IsAnswered template.2 := by
  simp only [Template.bundled, List.forall_mem_cons]
  and_intros
  iterate 20
    · apply isAnswered_unlines
      · repeat' constructor
      · decide +kernel
  exact List.forall_mem_nil _

theorem exists_read_bundled {language : String} {archetype : Archetype} {path : String}
    {role : Role} {artifacts : List Artifact} (hlist : list language archetype = .ok artifacts)
    (h : role = .migration ∨ path ∈ artifacts.map Artifact.path) :
    ∃ template text, template? path role language archetype = .ok (some template) ∧
      Shelf.bundled.read template = some text := by
  have hread : ∀ name ∈ "migration.sql.tmpl" :: known.map Artifact.template,
      (Shelf.bundled.read name).isSome = true := by decide +kernel
  rw [template?]
  split
  next =>
    obtain ⟨text, htext⟩ := Option.isSome_iff_exists.1 (hread _ List.mem_cons_self)
    exact ⟨_, text, rfl, htext⟩
  next hrole =>
    obtain ⟨a, ha, hpath⟩ := List.mem_map.1 (h.resolve_left hrole)
    obtain ⟨found, hfound⟩ := Option.isSome_iff_exists.1
      (List.find?_isSome (p := fun a => a.path == path).2 ⟨a, ha, by simpa using hpath⟩)
    have hmem := list_subset_known hlist (List.mem_of_find?_eq_some hfound)
    obtain ⟨text, htext⟩ := Option.isSome_iff_exists.1
      (hread _ (List.mem_cons_of_mem _ (List.mem_map_of_mem hmem)))
    refine ⟨found.template, text, ?_, htext⟩
    rw [hlist, Except.map, hfound]
    rfl

/-- With the bundled templates, migrations and the listed artifacts are rendered. -/
theorem exists_render_bundled {context : RenderContext} {kind : String}
    (htemplate : context.spec.template = some kind) {artifacts : List Artifact}
    (hlist : list context.spec.language context.archetype = .ok artifacts) {path : String}
    {role : Role} (h : role = .migration ∨ path ∈ artifacts.map Artifact.path)
    {kept : Kept} (hkept : Shelf.bundled.Holds kept) :
    ∃ text, (render .bundled path role context kept).1 = .ok text := by
  obtain ⟨template, text, hlisted, hread⟩ := exists_read_bundled hlist h
  have hmem : (template, text) ∈ Template.bundled := by
    obtain ⟨entry, hentry, htext⟩ := Option.map_eq_some_iff.1 hread
    have hname : entry.1 = template := by simpa using List.find?_some hentry
    have hentry := List.mem_of_find?_eq_some hentry
    rwa [← hname, ← htext]
  obtain ⟨toolchain, htoolchain, -⟩ := list_eq_ok_iff.1 hlist
  obtain ⟨filled, hfilled⟩ :=
    exists_fill_of_isAnswered (isAnswered_bundled _ hmem) htemplate htoolchain template path
  refine ⟨filled, ?_⟩
  rw [render_fst_of_holds hkept, render, hlisted]
  simp only [fetch, List.find?_nil, hread, hfilled]
  rfl

end Artifact

end CorpusForge
