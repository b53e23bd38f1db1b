import CorpusForge.Proofs.Structure.Descent

/-!
# The files of a structure

When the extension of its language is part of a name, the files of a planned structure are plain
paths that lead to different places, none of them in a directory of a history.

* `Layout.notMem_dir`: the directories of the groups;
* `Structure.IsPlanned.segments_files`: where the files are.
-/

namespace CorpusForge

/-! ### Segments -/

namespace Path

variable {path : String}

theorem segments_of_isPlain (h : IsPlain path) :
    segments path = (Text.splitAt '/' path.toList).map String.ofList := by
  rw [segments, settle_of_isName h, List.reverse_reverse]

theorem segments_inj {path' : String} (h : IsPlain path) (h' : IsPlain path')
    (heq : segments path = segments path') : path = path' := by
  rw [segments_of_isPlain h, segments_of_isPlain h'] at heq
  have hsplit := List.map_injective_iff.2 (fun _ _ => String.ofList_injective) heq
  exact String.toList_injective (Text.splitAt_injective '/' hsplit)

/-- The names of the directory that holds a plain path. -/
theorem dropLast_segments (h : IsPlain path) :
    (segments path).dropLast = (holder path).map String.ofList := by
  rw [segments_of_isPlain h, ← List.map_dropLast, holder]

end Path

/-! ### Directories -/

namespace Layout

variable {category root : String}

theorem notMem_of_mem_serviceRoots (h : root ∈ serviceRoots category) : '.' ∉ root.toList := by
  rcases eq_of_mem_serviceRoots h with rfl | ⟨index, rfl⟩
  · decide
  · have hservices : '.' ∉ "services/".toList := by decide
    rw [String.toList_append, List.mem_append, not_or]
    exact ⟨hservices, notMem_serviceName index (by decide) (by decide) (by decide)⟩

theorem notMem_dir_serviceMesh (category : String) :
    ∀ group ∈ (serviceMesh category).groups, '.' ∉ group.dir.toList := by
  intro group hgroup
  obtain ⟨root, hroot, hgroup⟩ := List.mem_flatMap.1 hgroup
  have hdot := notMem_of_mem_serviceRoots hroot
  have hnames : '.' ∉ "/src".toList ∧ '.' ∉ "/tests".toList := by decide
  rcases dir_of_mem_serviceGroups hgroup with hdir | hdir <;>
    rw [hdir, String.toList_append, List.mem_append, not_or]
  · exact ⟨hdot, hnames.1⟩
  · exact ⟨hdot, hnames.2⟩

/-- No group has a directory with a dot in its path. -/
theorem notMem_dir (archetype : Archetype) (category : String) :
    ∀ group ∈ (Layout.of archetype category).groups, '.' ∉ group.dir.toList :=
  forall_of (P := fun layout => ∀ group ∈ layout.groups, '.' ∉ group.dir.toList) (by decide)
    notMem_dir_serviceMesh archetype category

end Layout

/-- No artifact lies in the directory of a history. -/
theorem Artifact.notMem_holder {a : Artifact} (h : a ∈ known) :
    ".git".toList ∉ Path.holder a.path := by
  have hall : ∀ a ∈ known, ".git".toList ∉ Path.holder a.path := by decide +kernel
  exact hall a h

/-! ### Files -/

namespace Structure

variable {spec : Spec} {languages : List Language} {g : Gen} {structured : Structure}

theorem isPlain_of_isFileOf {group : FileGroup} {entry : ManifestEntry} (hgroup : group.IsSound)
    (hextension : '/' ∉ (extensionFor spec.language languages).toList)
    (h : IsFileOf spec languages group entry) :
    Path.IsPlain entry.path ∧ Path.holder entry.path = Text.splitAt '/' group.dir.toList := by
  obtain ⟨⟨i, hi, hpath⟩, -⟩ := h
  have hslash := notMem_groupExtension hgroup hextension
  have hplain := (hgroup.file hslash hi).2
  rw [hpath]
  refine ⟨?_, hgroup.holder_path hslash hi⟩
  rw [FileGroup.path, Path.join_pair hgroup.dir hplain]
  exact Path.isPlain_append hgroup.dir hplain

theorem IsPlanned.isPlain_files (h : IsPlanned spec languages g structured)
    (hextension : '/' ∉ (extensionFor spec.language languages).toList) :
    ∀ entry ∈ structured.manifest,
      Path.IsPlain entry.path ∧ ".git".toList ∉ Path.holder entry.path := by
  obtain ⟨g₁, g₂, sources, artifacts, hsources, hlist, hmanifest, -, -⟩ := h.exists_sources
  obtain ⟨hgroups, hapart⟩ := Layout.isSound_of structured.archetype spec.category
  rw [hmanifest]
  refine List.forall_mem_append.2 ⟨fun entry hentry => ?_, List.forall_mem_map.2 fun a ha => ?_⟩
  · obtain ⟨group, hgroup, hfile⟩ :=
      (yields_expandGroups hgroups hapart hextension hsources).2 entry hentry
    obtain ⟨hplain, hholder⟩ := isPlain_of_isFileOf (hgroups group hgroup) hextension hfile
    refine ⟨hplain, fun hgit => ?_⟩
    rw [hholder] at hgit
    exact Layout.notMem_dir _ _ group hgroup (Text.mem_of_mem_splitAt _ _ hgit (by decide))
  · have hknown := Artifact.list_subset_known hlist ha
    exact ⟨Artifact.isPlain_path hknown, Artifact.notMem_holder hknown⟩

/-- The files of a planned structure are in different places, away from a history. -/
theorem IsPlanned.segments_files (h : IsPlanned spec languages g structured)
    (hextension : '/' ∉ (extensionFor spec.language languages).toList) :
    (structured.manifest.map fun entry => Path.segments entry.path).Nodup ∧
      ∀ entry ∈ structured.manifest, ".git" ∉ (Path.segments entry.path).dropLast := by
  have hfiles := h.isPlain_files hextension
  refine ⟨?_, fun entry hentry hgit => ?_⟩
  · have hnodup := h.paths.1
    rw [List.Nodup, List.pairwise_map] at hnodup ⊢
    refine hnodup.imp_of_mem fun {entry entry'} hentry hentry' hne heq => ?_
    exact hne (Path.segments_inj (hfiles entry hentry).1 (hfiles entry' hentry').1 heq)
  · obtain ⟨hplain, hholder⟩ := hfiles entry hentry
    rw [Path.dropLast_segments hplain] at hgit
    obtain ⟨name, hname, heq⟩ := List.mem_map.1 hgit
    rw [← heq, String.toList_ofList] at hholder
    exact hholder hname

end Structure

end CorpusForge
