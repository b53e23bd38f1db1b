import CorpusForge.Proofs.Artifact.Catalog
import CorpusForge.Proofs.Random.Drawing
import CorpusForge.Structure.Plan

/-!
# Planned structures

No two files of a planned structure have one path, and the files of the first commit are among
them, whatever the specification and the table of languages.
-/

namespace CorpusForge

theorem Artifact.nodup_bootstrapFiles : bootstrapFiles.Nodup := by decide

namespace Structure

/-- Nothing is repeated when no text is found that occurs a second time. -/
theorem nodup_of_firstRepeated_eq_none {seen paths : List String}
    (h : firstRepeated seen paths = none) :
    paths.Nodup ∧ ∀ path ∈ paths, path ∉ seen := by
  induction paths generalizing seen with
  | nil => exact ⟨List.nodup_nil, fun _ hmem => absurd hmem List.not_mem_nil⟩
  | cons path rest ih =>
    rw [firstRepeated] at h
    split at h
    next => exact nomatch h
    next hnew =>
      obtain ⟨hnodup, hrest⟩ := ih h
      refine ⟨List.nodup_cons.2 ⟨fun hmem => hrest path hmem List.mem_cons_self, hnodup⟩, ?_⟩
      refine List.forall_mem_cons.2 ⟨by simpa using hnew, fun other hmem hseen => ?_⟩
      exact hrest other hmem (List.mem_cons_of_mem path hseen)

/-- A structure that may be planned from a generator. -/
def IsPlanned (spec : Spec) (languages : List Language) (g : Gen) (structured : Structure) :
    Prop := ∃ g', (plan spec languages).run g = (.ok structured, g')

variable {spec : Spec} {languages : List Language} {g : Gen} {structured structured' : Structure}

theorem IsPlanned.unique (h : IsPlanned spec languages g structured)
    (h' : IsPlanned spec languages g structured') : structured = structured' := by
  obtain ⟨g₁, h⟩ := h
  obtain ⟨g₂, h'⟩ := h'
  exact Except.ok.inj (Prod.mk.inj (h.symm.trans h')).1

theorem yields_archetypeOf (spec : Spec) :
    (archetypeOf spec).Yields fun archetype => ∃ template, spec.template = some template ∧
      archetype = .classify spec.category template := by
  rw [archetypeOf]
  split
  next template htemplate => exact Drawing.yields_pure ⟨template, htemplate, rfl⟩
  next => exact Drawing.yields_refuse _

theorem yields_artifactsOf (spec : Spec) (archetype : Archetype) :
    (artifactsOf spec archetype).Yields fun entries =>
      Artifact.entries spec.language archetype = .ok entries := by
  rw [artifactsOf]
  split
  next entries hentries => exact Drawing.yields_pure hentries
  next => exact Drawing.yields_refuse _

/-- The archetype of a planned structure is that of its category and template. -/
theorem IsPlanned.archetype (h : IsPlanned spec languages g structured) :
    ∃ template, spec.template = some template ∧
      structured.archetype = .classify spec.category template := by
  obtain ⟨g', h⟩ := h
  suffices hplan : (plan spec languages).Yields fun structured =>
      ∃ template, spec.template = some template ∧
        structured.archetype = .classify spec.category template from hplan h
  refine (yields_archetypeOf spec).bind fun archetype harchetype =>
    Drawing.yields_bind_of_forall fun sources => Drawing.yields_bind_of_forall fun artifacts => ?_
  dsimp only
  split
  next => exact Drawing.yields_refuse _
  next => exact Drawing.yields_pure harchetype

/-- The files of a planned structure are those that were drawn for the groups of its layout, and the
    artifacts. No two have one path, and the directories are those of the layout and of the files. -/
theorem IsPlanned.exists_sources (h : IsPlanned spec languages g structured) :
    ∃ g₁ g₂ sources artifacts,
      (expandGroups spec languages (Layout.of structured.archetype spec.category).groups :
        Drawing Mishap _).run g₁ = (.ok sources, g₂) ∧
      Artifact.list spec.language structured.archetype = .ok artifacts ∧
      structured.manifest = sources ++ artifacts.map (Artifact.entry spec.language) ∧
      (structured.manifest.map ManifestEntry.path).Nodup ∧
      structured.directories = directoriesOf (Layout.of structured.archetype spec.category)
        (structured.manifest.map ManifestEntry.path) := by
  obtain ⟨g', h⟩ := h
  obtain ⟨archetype, g₁, -, h⟩ := Drawing.exists_run_of_run_bind h
  obtain ⟨sources, g₂, hsources, h⟩ := Drawing.exists_run_of_run_bind h
  obtain ⟨entries, g₃, hentries, h⟩ := Drawing.exists_run_of_run_bind h
  obtain ⟨artifacts, hartifacts, rfl⟩ :=
    Artifact.entries_eq_ok_iff.1 (yields_artifactsOf spec archetype hentries)
  dsimp only at h
  split at h
  next => exact nomatch h
  next hnone =>
    cases h
    exact ⟨g₁, g₂, sources, artifacts, hsources, hartifacts, rfl,
      (nodup_of_firstRepeated_eq_none hnone).1, rfl⟩

/-- The paths of a planned structure are different ones, those of the first commit among them. -/
theorem IsPlanned.paths (h : IsPlanned spec languages g structured) :
    (structured.manifest.map ManifestEntry.path).Nodup ∧
      Artifact.bootstrapFiles ⊆ structured.manifest.map ManifestEntry.path := by
  obtain ⟨-, -, sources, artifacts, -, hartifacts, hmanifest, hnodup, -⟩ := h.exists_sources
  refine ⟨hnodup, ?_⟩
  rw [hmanifest, List.map_append, Artifact.map_path_entry]
  exact List.Subset.trans (Artifact.bootstrapFiles_subset_list hartifacts)
    (List.subset_append_right _ _)

end Structure

end CorpusForge
