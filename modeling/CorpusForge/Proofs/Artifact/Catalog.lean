import CorpusForge.Artifact.Catalog
import CorpusForge.Proofs.Structure.Layout

/-!
# The catalog is sound

Every language has a toolchain, unless it has a name that every record inherits. The artifacts that
are listed with a toolchain have paths of their own, in few directories.

* `Toolchain.of?_eq_none_iff`: the languages without a toolchain;
* `Artifact.list_eq_ok_iff`: the languages with a list of artifacts;
* `Artifact.nodup_list`, `Artifact.holder_of_mem_list`: the paths of the artifacts.
-/

namespace CorpusForge

variable {language : String} {archetype : Archetype} {toolchain : Toolchain}
  {artifacts : List Artifact}

namespace Toolchain

/-- No toolchain is listed for a name that every record inherits. -/
theorem of?_eq_none_iff : of? language = none ↔ Fields.isInherited language = true := by
  rw [of?]
  cases hfind : table.find? fun entry => entry.1 == language with
  | none => cases Fields.isInherited language <;> simp
  | some entry =>
    have hlisted : ∀ entry ∈ table, Fields.isInherited entry.1 = false := by decide
    have hname : entry.1 = language := by simpa using List.find?_some hfind
    have hentry := hlisted entry (List.mem_of_find?_eq_some hfind)
    rw [hname] at hentry
    simp [hentry]

theorem exists_of? (h : Fields.isInherited language = false) :
    ∃ toolchain, of? language = some toolchain := by
  refine Option.ne_none_iff_exists'.1 fun hnone => ?_
  rw [of?_eq_none_iff, h] at hnone
  exact Bool.false_ne_true hnone

/-- The toolchain of a language is one of the table, or has nothing to manage. -/
theorem mem_table_of (h : of? language = some toolchain) :
    toolchain ∈ fallback :: table.map Prod.snd := by
  rw [of?] at h
  cases hfind : table.find? fun entry => entry.1 == language with
  | none =>
    rw [hfind] at h
    obtain ⟨-, heq⟩ := Option.ite_none_left_eq_some.1 h
    rw [← Option.some_inj.1 heq]
    exact List.mem_cons_self
  | some entry =>
    rw [hfind] at h
    rw [← Option.some_inj.1 h]
    exact List.mem_cons_of_mem _ (List.mem_map_of_mem (List.mem_of_find?_eq_some hfind))

end Toolchain

namespace Artifact

/-! ### Lists of artifacts -/

theorem list_eq_ok_iff : list language archetype = .ok artifacts ↔
    ∃ toolchain, Toolchain.of? language = some toolchain ∧
      listWith toolchain language archetype = artifacts := by
  rw [list]
  cases Toolchain.of? language <;> simp

/-- A list of artifacts fails only with the toolchain. -/
theorem exists_list (h : Fields.isInherited language = false) (archetype : Archetype) :
    ∃ artifacts, list language archetype = .ok artifacts := by
  obtain ⟨toolchain, htoolchain⟩ := Toolchain.exists_of? h
  exact ⟨_, list_eq_ok_iff.2 ⟨toolchain, htoolchain, rfl⟩⟩

theorem entries_eq_ok_iff {files : List ManifestEntry} : entries language archetype = .ok files ↔
    ∃ artifacts, list language archetype = .ok artifacts ∧
      artifacts.map (entry language) = files := by
  rw [entries]
  cases list language archetype <;> simp [Except.map]

/-- An artifact keeps its path in a manifest. -/
theorem map_path_entry (language : String) (artifacts : List Artifact) :
    (artifacts.map (entry language)).map ManifestEntry.path = artifacts.map Artifact.path := by
  rw [List.map_map]
  rfl

/-- The files with a template are those that are listed. -/
theorem exists_template?_iff {path : String} (h : list language archetype = .ok artifacts) :
    (∃ template, template? path .artifact language archetype = .ok (some template)) ↔
      path ∈ artifacts.map Artifact.path := by
  have hfind : (∃ template, ((artifacts.find? fun a => a.path == path).map Artifact.template) =
      some template) ↔ path ∈ artifacts.map Artifact.path := by
    rw [← Option.isSome_iff_exists, Option.isSome_map, List.find?_isSome, List.mem_map]
    simp only [beq_iff_eq]
  rw [template?, if_neg (by decide), h, ← hfind]
  simp only [Except.map, Except.ok.injEq]

/-- Looking for a template goes wrong only with the toolchain. -/
theorem template?_eq_error_iff {path : String} {role : Role} :
    (∃ misuse, template? path role language archetype = .error misuse) ↔
      role ≠ .migration ∧ Fields.isInherited language = true := by
  rw [template?, ← Toolchain.of?_eq_none_iff, list]
  split
  next hrole => simp [hrole]
  next hrole => cases Toolchain.of? language <;> simp [hrole, Except.map]

/-! ### The artifacts that there are -/

/-- The artifacts of all languages and archetypes. -/
def known : List Artifact :=
  common ++ Toolchain.table.flatMap (fun entry => entry.2.manifests)
    ++ dockerfile "python" :: dockerfile "" :: infrastructure

/-- Every language has one of two containers. -/
theorem dockerfile_eq (language : String) :
    dockerfile language = dockerfile "python" ∨ dockerfile language = dockerfile "" := by
  by_cases h : language = "python"
  · exact .inl (by rw [h])
  · exact .inr (by rw [dockerfile, if_neg h]; rfl)

theorem list_subset_known (h : list language archetype = .ok artifacts) : artifacts ⊆ known := by
  obtain ⟨toolchain, htoolchain, rfl⟩ := list_eq_ok_iff.1 h
  intro a ha
  simp only [listWith, known, List.mem_append, or_assoc] at ha ⊢
  rcases ha with hcommon | hmanifest | hinfra
  · exact .inl hcommon
  · refine .inr (.inl ?_)
    rcases List.mem_cons.1 (Toolchain.mem_table_of htoolchain) with rfl | hmem
    · exact absurd hmanifest List.not_mem_nil
    · obtain ⟨entry, hentry, rfl⟩ := List.mem_map.1 hmem
      exact List.mem_flatMap.2 ⟨entry, hentry, hmanifest⟩
  · refine .inr (.inr ?_)
    split at hinfra
    next =>
      rcases List.mem_cons.1 hinfra with rfl | hmem
      · rcases dockerfile_eq language with heq | heq <;> simp [heq]
      · exact List.mem_cons_of_mem _ (List.mem_cons_of_mem _ hmem)
    next => exact absurd hinfra List.not_mem_nil

/-- Every repository has the common artifacts. -/
theorem common_subset_list (h : list language archetype = .ok artifacts) :
    common.map path ⊆ artifacts.map path := by
  obtain ⟨toolchain, -, rfl⟩ := list_eq_ok_iff.1 h
  simp only [listWith, List.map_append, List.append_assoc]
  exact List.subset_append_left _ _

/-- Every repository has the files of the first commit. -/
theorem bootstrapFiles_subset_list (h : list language archetype = .ok artifacts) :
    bootstrapFiles ⊆ artifacts.map path := by
  have hcommon : bootstrapFiles ⊆ common.map path := by decide
  exact List.Subset.trans hcommon (common_subset_list h)

/-- The artifacts of a repository have different paths. -/
theorem nodup_list (h : list language archetype = .ok artifacts) :
    (artifacts.map path).Nodup := by
  obtain ⟨toolchain, htoolchain, rfl⟩ := list_eq_ok_iff.1 h
  have hall : ∀ toolchain ∈ Toolchain.fallback :: Toolchain.table.map Prod.snd,
      ((common ++ toolchain.manifests ++ dockerfile "" :: infrastructure).map path).Nodup := by
    decide +kernel
  have hnodup := hall _ (Toolchain.mem_table_of htoolchain)
  -- the path of the container does not depend on the language
  have hpath : ((common ++ toolchain.manifests ++
      dockerfile language :: infrastructure).map path).Nodup := by
    simpa [dockerfile] using hnodup
  refine hpath.sublist (List.Sublist.map path (List.Sublist.append_left ?_ _))
  split
  · exact List.Sublist.refl _
  · exact List.nil_sublist _

/-- An artifact lies in the directory of the repository, or in one of a few others. -/
theorem holder_of_mem_list (h : list language archetype = .ok artifacts) {a : Artifact}
    (ha : a ∈ artifacts) :
    Path.holder a.path = [] ∨
      ∃ folder ∈ folders, Path.holder a.path = Text.splitAt '/' folder.toList := by
  have hall : ∀ a ∈ known, Path.holder a.path = [] ∨
      ∃ folder ∈ folders, Path.holder a.path = Text.splitAt '/' folder.toList := by decide +kernel
  exact hall a (list_subset_known h ha)

end Artifact

end CorpusForge
