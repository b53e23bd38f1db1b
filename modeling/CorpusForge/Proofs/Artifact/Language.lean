import CorpusForge.Proofs.Artifact.Bundled
import CorpusForge.Source.Registry

/-!
# Languages by name

The style of a language is found in any letter case and by other names of the language, its
toolchain by the one name only. So the artifacts of a repository are those of the language that its
sources are written in only if the repository calls the language by the name of the style.

* `Toolchain.canonical_of_mem_languages`: the names that have a toolchain are names of styles;
* `Artifact.exists_path`: a file that there is only with a toolchain;
* `Artifact.follows_style_iff`: when sources and artifacts agree on the language.
-/

namespace CorpusForge

variable {language language' : String}

namespace Toolchain

/-! ### Names -/

/-- The languages that have a toolchain. -/
def languages : List String := table.map Prod.fst

/-- The name of a language with a toolchain stands for no other one. -/
theorem canonical_of_mem_languages (h : language ∈ languages) :
    Source.Registry.default.canonical language = language := by
  have hall : ∀ name ∈ languages, Source.Registry.default.canonical name = name := by
    decide
  exact hall language h

theorem exists_of_mem_languages (h : language ∈ languages) :
    ∃ toolchain ∈ table.map Prod.snd, of? language = some toolchain := by
  have hall : ∀ name ∈ languages, ∃ toolchain ∈ table.map Prod.snd, of? name = some toolchain := by
    decide
  exact hall language h

theorem of?_of_notMem_languages (h : language ∉ languages)
    (hown : Fields.isInherited language = false) : of? language = some fallback := by
  have hnone : (table.find? fun entry => entry.1 == language) = none :=
    List.find?_eq_none.2 fun entry hentry heq =>
      h (List.mem_map.2 ⟨entry, hentry, beq_iff_eq.1 heq⟩)
  rw [of?, hnone, hown]
  rfl

/-- The names that every record inherits are names of no style. -/
theorem isInherited_of_get? {style : Source.Style}
    (h : Source.Registry.default.get? language = some style) :
    Fields.isInherited language = false := by
  have hall : ∀ name ∈ Fields.inheritedNames, Source.Registry.default.get? name = none := by
    decide
  by_contra hinherited
  have hnone := hall language (List.contains_iff_mem.1 (Bool.eq_true_of_not_eq_false hinherited))
  rw [h] at hnone
  exact Option.some_ne_none _ hnone

/-- The name of a style is the one that the registry has put in place of the language. -/
theorem id_of_get? {registry : Source.Registry} {style : Source.Style}
    (h : registry.get? language = some style) : style.id = registry.canonical language := by
  have hfound := List.find?_some h
  exact beq_iff_eq.1 hfound

/-- A language with a toolchain of its own is called by the name of its style. -/
theorem mem_languages_iff {style : Source.Style}
    (h : Source.Registry.default.get? language = some style) (hstyle : style.id ∈ languages) :
    language ∈ languages ↔ language = style.id := by
  refine ⟨fun hmem => ?_, fun heq => heq ▸ hstyle⟩
  rw [id_of_get? h, canonical_of_mem_languages hmem]

end Toolchain

namespace Artifact

/-! ### Files -/

/-- The files that a repository can have without a toolchain. -/
def bare : List Artifact := common ++ dockerfile "" :: infrastructure

theorem path_mem_bare {archetype : Archetype} {a : Artifact}
    (ha : a ∈ listWith .fallback language archetype) : a.path ∈ bare.map path := by
  simp only [listWith, List.mem_append] at ha
  rw [bare, List.map_append, List.map_cons]
  rcases ha with (hcommon | hmanifest) | hinfra
  · exact List.mem_append_left _ (List.mem_map_of_mem hcommon)
  · exact absurd hmanifest List.not_mem_nil
  · refine List.mem_append_right _ ?_
    split at hinfra
    next =>
      rcases List.mem_cons.1 hinfra with rfl | hmem
      · exact List.mem_cons_self
      · exact List.mem_cons_of_mem _ (List.mem_map_of_mem hmem)
    next => exact absurd hinfra List.not_mem_nil

/-- A repository whose language has a toolchain has a file that it would not have otherwise. -/
theorem exists_path {toolchain : Toolchain} (h : toolchain ∈ Toolchain.table.map Prod.snd)
    (language language' : String) (archetype : Archetype) :
    ∃ path ∈ (listWith toolchain language archetype).map Artifact.path,
      path ∉ (listWith .fallback language' archetype).map Artifact.path := by
  have hall : ∀ toolchain ∈ Toolchain.table.map Prod.snd,
      ∃ manifest ∈ toolchain.manifests, manifest.path ∉ bare.map path := by decide
  obtain ⟨manifest, hmanifest, hapart⟩ := hall _ h
  refine ⟨manifest.path, List.mem_map_of_mem ?_, fun hmem => ?_⟩
  · exact List.mem_append_left _ (List.mem_append_right _ hmanifest)
  · obtain ⟨a, ha, heq⟩ := List.mem_map.1 hmem
    exact hapart (heq ▸ path_mem_bare ha)

/-! ### Agreement -/

/-- Sources and artifacts agree on the language of a repository iff it is called by the name of its
    style: only then the repository has the toolchain, the files and the templates of that
    language. Called otherwise it has no toolchain, and its container is not that of a language. -/
theorem follows_style_iff {style : Source.Style}
    (h : Source.Registry.default.get? language = some style)
    (hstyle : style.id ∈ Toolchain.languages) (archetype : Archetype) :
    (Toolchain.of? language = Toolchain.of? style.id ↔ language = style.id) ∧
      (∃ files files', entries language archetype = .ok files ∧
        entries style.id archetype = .ok files' ∧
        (files.map ManifestEntry.path = files'.map ManifestEntry.path ↔ language = style.id)) ∧
      ((∀ path role, template? path role language archetype =
        template? path role style.id archetype) ↔ language = style.id) ∧
      (language ≠ style.id →
        Toolchain.of? language = some .fallback ∧ dockerfile language = dockerfile "") := by
  obtain ⟨toolchain, htoolchain, hof⟩ := Toolchain.exists_of_mem_languages hstyle
  have hlist' : list style.id archetype = .ok (listWith toolchain style.id archetype) :=
    list_eq_ok_iff.2 ⟨_, hof, rfl⟩
  obtain ⟨artifacts, hlist⟩ := exists_list (Toolchain.isInherited_of_get? h) archetype
  -- a language that is called otherwise has no toolchain, and lacks one of the files
  have hnot : language ≠ style.id → language ∉ Toolchain.languages :=
    mt (Toolchain.mem_languages_iff h hstyle).1
  have hother : language ≠ style.id → Toolchain.of? language = some .fallback := fun hne =>
    Toolchain.of?_of_notMem_languages (hnot hne) (Toolchain.isInherited_of_get? h)
  obtain ⟨path, hpath, hapart⟩ := exists_path htoolchain style.id language archetype
  have hlacks : language ≠ style.id → path ∉ artifacts.map Artifact.path := fun hne => by
    obtain ⟨other, hof, rfl⟩ := list_eq_ok_iff.1 hlist
    rw [hother hne, Option.some_inj] at hof
    rwa [← hof]
  refine ⟨⟨fun heq => ?_, fun heq => by rw [heq]⟩,
    ⟨_, _, entries_eq_ok_iff.2 ⟨_, hlist, rfl⟩, entries_eq_ok_iff.2 ⟨_, hlist', rfl⟩, ?_⟩,
    ⟨fun heq => ?_, fun heq => by simp [heq]⟩, fun hne => ⟨hother hne, ?_⟩⟩
  · by_contra hne
    have hfallback : Toolchain.fallback ∉ Toolchain.table.map Prod.snd := by decide
    rw [hother hne, hof, Option.some_inj] at heq
    exact hfallback (heq ▸ htoolchain)
  · rw [map_path_entry, map_path_entry]
    refine ⟨fun heq => ?_, fun heq => ?_⟩
    · by_contra hne
      exact hlacks hne (heq ▸ hpath)
    · rw [heq, hlist', Except.ok.injEq] at hlist
      rw [hlist]
  · by_contra hne
    obtain ⟨template, htemplate⟩ := (exists_template?_iff hlist').2 hpath
    rw [← heq] at htemplate
    exact hlacks hne ((exists_template?_iff hlist).1 ⟨template, htemplate⟩)
  · have hpython : language ≠ "python" := fun heq => hnot hne (heq ▸ by decide)
    rw [dockerfile, if_neg hpython]
    rfl

theorem follows_style_iff_py :
    (Source.Registry.default.get? "py" = some Source.python ∧
      Source.python.id ∈ Toolchain.languages) ∧
      Toolchain.of? "py" = some Toolchain.fallback := by
  have h : Source.Registry.default.get? "py" = some Source.python := rfl
  have hstyle : Source.python.id ∈ Toolchain.languages := by decide
  exact ⟨⟨h, hstyle⟩, ((follows_style_iff h hstyle .webApp).2.2.2 (by decide)).1⟩

/-- Python in capitals is written as Python and put together as no language. -/
theorem python_without_requirements :
    Source.Registry.default.get? "Python" = some Source.python ∧
      Source.python.id ∈ Toolchain.languages ∧
      Toolchain.of? "Python" ≠ Toolchain.of? Source.python.id ∧
      template? "requirements.txt" .artifact "Python" .webApp ≠
        template? "requirements.txt" .artifact Source.python.id .webApp :=
  ⟨rfl, by decide, by decide +kernel, by decide +kernel⟩

end Artifact

end CorpusForge
