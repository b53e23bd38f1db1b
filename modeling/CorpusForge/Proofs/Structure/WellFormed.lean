import CorpusForge.Config.Corpus
import CorpusForge.Proofs.Structure.Files
import CorpusForge.Proofs.Text.Order

/-!
# Structures are well formed

The files of a repository are leaves: none is a directory, or above another file. A file of a group
begins with the label of its group, and an artifact is one of a few, so it is enough to look at the
directories that a layout may have (`Layout.places`). In a mesh the files of a service are deeper
than any directory.

* `Path.dirname_cases`: the directory of a plain path;
* `Layout.isLeafy_of`: no directory is at a file or below one;
* `Structure.plan_wellFormed`: what is planned, and when nothing is.
-/

namespace CorpusForge

/-! ### Directories of paths -/

namespace Path

variable {path path' : String}

/-- A plain path is a name, or a name in its directory. -/
theorem dirname_cases (h : IsPlain path) :
    ('/' ∉ path.toList ∧ dirname path = ".") ∨
      ∃ last : List Char, '/' ∉ last ∧ dirname path ≠ "." ∧
        path.toList = (dirname path).toList ++ '/' :: last := by
  have hway := isWay_of_isPlain h
  obtain ⟨names, last, hsplit⟩ : ∃ names last, Text.splitAt '/' path.toList = names ++ [last] :=
    ⟨_, _, (List.dropLast_concat_getLast (Text.splitAt_ne_nil '/' path.toList)).symm⟩
  rw [hsplit] at hway
  have hlast := hway.isName last (by simp)
  have htext := withSlashes_splitAt path.toList
  rw [hsplit] at htext
  by_cases hnil : names = []
  · subst hnil
    obtain rfl : last = path.toList := htext
    exact .inl ⟨hlast.2, dirname_eq_dot hlast (.inl rfl)⟩
  · rw [withSlashes_append_singleton hnil] at htext
    have hnames : ∀ name ∈ names, IsName name ∧ '/' ∉ name := fun name hmem =>
      hway.isName name (List.mem_append_left _ hmem)
    obtain ⟨hbody, hend⟩ := getLast?_withSlashes hnil hnames
    have hdir := dirname_eq hbody (fun hroot => hend (hroot ▸ rfl)) hlast (.inl htext.symm)
    refine .inr ⟨last, hlast.2, fun hdot => ?_, by rw [hdir, String.toList_ofList, htext]⟩
    -- the only segment of a dot is not a name
    have hnames' := splitAt_withSlashes hnil fun name hmem => (hnames name hmem).2
    have hsegments := hdir.symm.trans hdot
    rw [← String.toList_inj, String.toList_ofList] at hsegments
    rw [hsegments] at hnames'
    exact (hnames ['.'] (hnames' ▸ List.mem_cons_self)).1.2.1 rfl

/-- What is above a path is its directory or above that. -/
theorem prefix_dirname (h : IsPlain path') (habove : (path ++ "/").toList <+: path'.toList) :
    dirname path' ≠ "." ∧ path.toList <+: (dirname path').toList := by
  rw [String.toList_append] at habove
  rcases dirname_cases h with ⟨hslash, -⟩ | ⟨last, hslash, hdot, htext⟩
  · exact absurd (habove.mem (by simp)) hslash
  refine ⟨hdot, ?_⟩
  rw [htext] at habove
  obtain ⟨rest, hrest⟩ := habove
  rw [List.append_assoc] at hrest
  -- the slash behind the path is not one behind the last name
  rcases List.append_eq_append_iff.1 hrest with ⟨more, hdir, -⟩ | ⟨more, hpath, hmore⟩
  · exact ⟨more, hdir.symm⟩
  · cases more with
    | nil => exact ⟨[], by simp [hpath]⟩
    | cons c more =>
      obtain ⟨-, hlast⟩ := List.cons.inj hmore
      exact absurd (hlast ▸ by simp) hslash

end Path

/-! ### Directories of layouts -/

namespace Artifact

theorem dirname_of_mem_known {a : Artifact} (h : a ∈ known) :
    Path.dirname a.path = "." ∨ Path.dirname a.path ∈ folders := by
  have hall : ∀ a ∈ known, Path.dirname a.path = "." ∨ Path.dirname a.path ∈ folders := by
    decide +kernel
  exact hall a h

end Artifact

/-- What the paths of all files begin with. -/
def FileGroup.front (group : FileGroup) : List Char :=
  group.dir.toList ++ '/' :: group.stem.label.toList

namespace Layout

/-- The directories that a repository may have: those of the layout, those of the groups, and those
    of the artifacts. -/
def places (layout : Layout) : List String :=
  layout.directories ++ layout.groups.map FileGroup.dir ++ Artifact.folders

/-- No place is at a file or below one. -/
def IsLeafy (layout : Layout) : Prop :=
  ∀ place ∈ layout.places,
    (∀ group ∈ layout.groups, ¬group.front <+: place.toList) ∧
      ∀ a ∈ Artifact.known, ¬a.path.toList <+: place.toList

instance : DecidablePred IsLeafy := fun layout =>
  inferInstanceAs (Decidable (∀ place ∈ layout.places,
    (∀ group ∈ layout.groups, ¬group.front <+: place.toList) ∧
      ∀ a ∈ Artifact.known, ¬a.path.toList <+: place.toList))

variable {category root place : String}

/-- All services are equally deep, since their names have no slash in them. -/
theorem count_of_mem_serviceRoots (h : root ∈ serviceRoots category) :
    root = "api-gateway" ∨ "services/".toList <+: root.toList ∧ root.toList.count '/' = 1 := by
  rcases eq_of_mem_serviceRoots h with rfl | ⟨index, rfl⟩
  · exact .inl rfl
  · have hslash : '/' ∉ (serviceName index).toList :=
      notMem_serviceName index (by decide) (by decide) (by decide)
    rw [String.toList_append, List.count_append, List.count_eq_zero_of_not_mem hslash]
    exact .inr ⟨List.prefix_append _ _, rfl⟩

/-- The places of a mesh are the directories of a service, or shared by all. -/
theorem mem_places_serviceMesh (h : place ∈ (serviceMesh category).places) :
    (∃ root ∈ serviceRoots category, ∃ name ∈ ["/src", "/tests", "/config"],
      place = root ++ name) ∨
    place ∈ ["shared/models", "shared/utils", "infrastructure"] ++ Artifact.folders := by
  simp only [places, serviceMesh, List.mem_append, List.mem_flatMap, List.mem_map] at h
  obtain ((⟨root, hroot, hplace⟩ | hplace) | ⟨group, ⟨root, hroot, hgroup⟩, rfl⟩) | hplace := h
  · refine .inl ⟨root, hroot, ?_⟩
    simpa using hplace
  · exact .inr (List.mem_append_left _ hplace)
  · refine .inl ⟨root, hroot, ?_⟩
    rcases dir_of_mem_serviceGroups hgroup with hdir | hdir
    · exact ⟨"/src", by simp, hdir⟩
    · exact ⟨"/tests", by simp, hdir⟩
  · exact .inr (List.mem_append_right _ hplace)

theorem exists_front_of_mem_serviceGroups {group : FileGroup} (h : group ∈ serviceGroups root) :
    ∃ name ∈ ["/src/", "/tests/"], (root ++ name).toList <+: group.front := by
  rcases dir_of_mem_serviceGroups h with hdir | hdir
  · exact ⟨"/src/", by simp, by simp [FileGroup.front, hdir]⟩
  · exact ⟨"/tests/", by simp, by simp [FileGroup.front, hdir]⟩

/-- The files of a service are deeper than any place, and those of the gateway are not in the
    directory of the services. -/
theorem not_prefix_of_mem_places (hroot : root ∈ serviceRoots category) {name : String}
    (hname : name ∈ ["/src/", "/tests/"]) (hplace : place ∈ (serviceMesh category).places) :
    ¬(root ++ name).toList <+: place.toList := by
  intro hfront
  have hdepth := hfront.sublist.count_le '/'
  have htwo : name.toList.count '/' = 2 :=
    (by decide : ∀ name ∈ ["/src/", "/tests/"], name.toList.count '/' = 2) name hname
  rw [String.toList_append, List.count_append, htwo] at hdepth
  rcases mem_places_serviceMesh hplace with ⟨root', hroot', name', hname', rfl⟩ | hshared
  · have hone : name'.toList.count '/' = 1 :=
      (by decide : ∀ name ∈ ["/src", "/tests", "/config"], name.toList.count '/' = 1) name' hname'
    rw [String.toList_append, List.count_append, hone] at hdepth
    rcases count_of_mem_serviceRoots hroot with rfl | ⟨-, hdeep⟩ <;>
      rcases count_of_mem_serviceRoots hroot' with rfl | ⟨hservices, hdeep'⟩
    · exact absurd hdepth (by decide)
    · rw [String.toList_append, String.toList_append] at hfront
      rcases List.prefix_or_prefix_of_prefix ((List.prefix_append _ _).trans hfront)
        (hservices.trans (List.prefix_append _ _)) with hgateway | hgateway
      · exact absurd hgateway (by decide)
      · exact absurd hgateway (by decide)
    · rw [hdeep] at hdepth
      exact absurd hdepth (by decide)
    · omega
  · have hall : ∀ place ∈ ["shared/models", "shared/utils", "infrastructure"] ++ Artifact.folders,
        place.toList.count '/' ≤ 1 := by decide
    have hshallow := hall place hshared
    omega

theorem isLeafy_serviceMesh (category : String) : (serviceMesh category).IsLeafy := by
  intro place hplace
  refine ⟨fun group hgroup hfront => ?_, fun a ha hfront => ?_⟩
  · obtain ⟨root, hroot, hgroup⟩ := List.mem_flatMap.1 hgroup
    obtain ⟨name, hname, hdir⟩ := exists_front_of_mem_serviceGroups hgroup
    exact not_prefix_of_mem_places hroot hname hplace (hdir.trans hfront)
  · rcases mem_places_serviceMesh hplace with ⟨root, hroot, name, hname, rfl⟩ | hshared
    · rcases count_of_mem_serviceRoots hroot with rfl | ⟨hservices, -⟩
      · have hall : ∀ a ∈ Artifact.known, ∀ name ∈ ["/src", "/tests", "/config"],
            ¬a.path.toList <+: ("api-gateway" ++ name).toList := by decide +kernel
        exact hall a ha name hname hfront
      · have hall : ∀ a ∈ Artifact.known, ¬a.path.toList <+: "services/".toList ∧
            ¬"services/".toList <+: a.path.toList := by decide +kernel
        rw [String.toList_append] at hfront
        rcases List.prefix_or_prefix_of_prefix hfront
          (hservices.trans (List.prefix_append _ name.toList)) with habove | hbelow
        · exact (hall a ha).1 habove
        · exact (hall a ha).2 hbelow
    · have hall : ∀ place ∈ ["shared/models", "shared/utils", "infrastructure"] ++ Artifact.folders,
          ∀ a ∈ Artifact.known, ¬a.path.toList <+: place.toList := by decide +kernel
      exact hall place hshared a ha hfront

/-- No directory of a repository is at one of its files or below it. -/
theorem isLeafy_of (archetype : Archetype) (category : String) :
    (Layout.of archetype category).IsLeafy :=
  forall_of (by decide +kernel) isLeafy_serviceMesh archetype category

end Layout

/-! ### Structures -/

namespace Structure

variable {spec : Spec} {languages : List Language} {g : Gen} {structured : Structure}
  {entry : ManifestEntry}

/-- Every file has a path of its own that leads down by names, and none is above another or where a
    directory is. The directories are listed in order, each once, and those of all files are among
    them. The files of the first commit are there once. -/
structure IsWellFormed (structured : Structure) : Prop where
  nodup : (structured.manifest.map ManifestEntry.path).Nodup
  relative : ∀ entry ∈ structured.manifest, ¬Path.IsRooted entry.path
  normal : ∀ entry ∈ structured.manifest, Path.normalize entry.path = entry.path
  plain : ∀ entry ∈ structured.manifest, Path.IsPlain entry.path
  notDirectory : ∀ entry ∈ structured.manifest, entry.path ∉ structured.directories
  notAbove : ∀ entry ∈ structured.manifest, ∀ other ∈ structured.manifest,
    ¬(entry.path ++ "/").toList <+: other.path.toList
  listed : ∀ entry ∈ structured.manifest,
    Path.dirname entry.path = "." ∨ Path.dirname entry.path ∈ structured.directories
  ordered : structured.directories.Pairwise fun dir dir' => Text.precedes dir dir' = true
  bootstrap : ∀ file ∈ Artifact.bootstrapFiles,
    (structured.manifest.map ManifestEntry.path).count file = 1

/-- The name of a file of a group begins with the label of the group, in its directory. -/
theorem prefix_of_isFileOf {group : FileGroup} (hgroup : group.IsSound)
    (hextension : '/' ∉ (extensionFor spec.language languages).toList)
    (h : IsFileOf spec languages group entry) :
    Path.dirname entry.path = group.dir ∧ group.front <+: entry.path.toList := by
  obtain ⟨⟨i, hi, hpath⟩, -⟩ := h
  have hslash := notMem_groupExtension hgroup hextension
  obtain ⟨hname, hplain⟩ := hgroup.file hslash hi
  have hcs : entry.path.toList = group.dir.toList ++
      '/' :: (group.stem.name (.ofNat i) ++ groupExtension group spec languages).toList := by
    rw [hpath, FileGroup.path, Path.join_pair hgroup.dir hplain]
    simp
  have hdir : group.dir.toList ≠ [] := fun hnil =>
    hgroup.dir.ne_empty (String.toList_injective hnil)
  have hsegment : Path.IsName (group.stem.name (.ofNat i) ++
      groupExtension group spec languages).toList := by
    rw [Path.IsPlain, Text.splitAt_of_notMem hname] at hplain
    exact hplain _ List.mem_cons_self
  have hroot : group.dir.toList ≠ ['/'] := fun hroot =>
    Path.getLast?_ne_slash_of_isPlain hgroup.dir (hroot ▸ rfl)
  refine ⟨?_, ?_⟩
  · rw [Path.dirname_eq hdir hroot ⟨hsegment, hname⟩ (.inl hcs), String.ofList_toList]
  · obtain ⟨digits, -, hlabel⟩ := Stem.exists_toList_name hi
    rw [hcs, FileGroup.front, String.toList_append, hlabel, List.append_assoc]
    exact (List.prefix_append_right_inj _).2 ((List.prefix_cons_inj _).2 (List.prefix_append _ _))

/-- The files lie in places, and none of them is a place or above one. -/
theorem IsPlanned.places (h : IsPlanned spec languages g structured)
    (hextension : '/' ∉ (extensionFor spec.language languages).toList) :
    ∀ entry ∈ structured.manifest,
      (Path.dirname entry.path = "." ∨
        Path.dirname entry.path ∈ (Layout.of structured.archetype spec.category).places) ∧
      ∀ place ∈ (Layout.of structured.archetype spec.category).places,
        ¬entry.path.toList <+: place.toList := by
  obtain ⟨g₁, g₂, sources, artifacts, hsources, hlist, hmanifest, -, -⟩ := h.exists_sources
  obtain ⟨hgroups, hapart⟩ := Layout.isSound_of structured.archetype spec.category
  have hleafy := Layout.isLeafy_of structured.archetype spec.category
  rw [hmanifest]
  refine List.forall_mem_append.2 ⟨fun entry hentry => ?_, List.forall_mem_map.2 fun a ha => ?_⟩
  · obtain ⟨group, hgroup, hfile⟩ :=
      (yields_expandGroups hgroups hapart hextension hsources).2 entry hentry
    obtain ⟨hdir, hfront⟩ := prefix_of_isFileOf (hgroups group hgroup) hextension hfile
    refine ⟨.inr ?_, fun place hplace habove => ?_⟩
    · rw [hdir, Layout.places, List.append_assoc]
      exact List.mem_append_right _ (List.mem_append_left _ (List.mem_map_of_mem hgroup))
    · exact (hleafy place hplace).1 group hgroup (hfront.trans habove)
  · have hknown := Artifact.list_subset_known hlist ha
    refine ⟨(Artifact.dirname_of_mem_known hknown).imp id (List.mem_append_right _), ?_⟩
    exact fun place hplace => (hleafy place hplace).2 a hknown

/-- The directories are the places of the layout, and those that hold a file. -/
theorem IsPlanned.mem_directories_iff (h : IsPlanned spec languages g structured) {dir : String} :
    dir ∈ structured.directories ↔
      dir ∈ (Layout.of structured.archetype spec.category).directories ∨
        dir ≠ "." ∧ ∃ entry ∈ structured.manifest, Path.dirname entry.path = dir := by
  obtain ⟨-, -, -, -, -, -, -, -, hdirectories⟩ := h.exists_sources
  rw [hdirectories, directoriesOf, Text.sort, List.mem_mergeSort, List.mem_eraseDups]
  simp [and_comm]

theorem IsPlanned.directories_subset_places (h : IsPlanned spec languages g structured)
    (hextension : '/' ∉ (extensionFor spec.language languages).toList) :
    structured.directories ⊆ (Layout.of structured.archetype spec.category).places := by
  intro dir hdir
  rcases h.mem_directories_iff.1 hdir with hdir | ⟨hdot, entry, hentry, rfl⟩
  · rw [Layout.places, List.append_assoc]
    exact List.mem_append_left _ hdir
  · exact (h.places hextension entry hentry).1.resolve_left hdot

/-- A structure that is planned for a language whose extension is part of a name is well formed. -/
theorem IsPlanned.isWellFormed (h : IsPlanned spec languages g structured)
    (hextension : '/' ∉ (extensionFor spec.language languages).toList) :
    structured.IsWellFormed := by
  have hplain : ∀ entry ∈ structured.manifest, Path.IsPlain entry.path := fun entry hentry =>
    (h.isPlain_files hextension entry hentry).1
  have hplaces := h.places hextension
  have hdirectories := h.directories_subset_places hextension
  obtain ⟨hnodup, hbootstrap⟩ := h.paths
  exact {
    nodup := hnodup
    relative := fun entry hentry => Path.head?_ne_slash_of_isPlain (hplain entry hentry)
    normal := fun entry hentry => Path.normalize_of_isPlain (hplain entry hentry)
    plain := hplain
    notDirectory := fun entry hentry hdir =>
      (hplaces entry hentry).2 _ (hdirectories hdir) (List.prefix_refl _)
    notAbove := fun entry hentry other hother habove => by
      -- what is above a file is at its directory or above that, where no file is
      obtain ⟨hdot, hprefix⟩ := Path.prefix_dirname (hplain other hother) habove
      exact (hplaces entry hentry).2 _ ((hplaces other hother).1.resolve_left hdot) hprefix
    listed := fun entry hentry => or_iff_not_imp_left.2 fun hdot =>
      h.mem_directories_iff.2 (.inr ⟨hdot, entry, hentry, rfl⟩)
    ordered := by
      obtain ⟨-, -, -, -, -, -, -, -, hdirs⟩ := h.exists_sources
      rw [hdirs]
      exact Text.pairwise_sort (Text.nodup_eraseDups _)
    bootstrap := fun file hfile => List.count_eq_one_of_mem hnodup (hbootstrap hfile) }

/-- Two files have one path only if the extension of the language leads elsewhere. -/
theorem mem_extensionFor_of_failure {failure : Failure} {g' : Gen}
    (h : (plan spec languages).run g = (.error (.failure failure), g')) :
    '/' ∈ (extensionFor spec.language languages).toList := by
  by_contra hextension
  rw [plan] at h
  rcases Drawing.run_bind_eq_error h with h | ⟨archetype, g₁, -, h⟩
  · -- without a template it is the template that is missed
    rw [archetypeOf] at h
    split at h <;> cases h
  obtain ⟨hgroups, hapart⟩ := Layout.isSound_of archetype spec.category
  rcases Drawing.run_bind_eq_error h with h | ⟨sources, g₂, hsources, h⟩
  · obtain ⟨entries, g₂, hentries⟩ := isTotal_expandGroups (ε := Mishap) spec languages
      (Layout.of archetype spec.category).groups g₁
    rw [h] at hentries
    cases hentries
  have hfiles := yields_expandGroups hgroups hapart hextension hsources
  rcases Drawing.run_bind_eq_error h with h | ⟨entries, g₃, hentries, h⟩
  · -- without a toolchain it is the list of artifacts that goes wrong
    rw [artifactsOf] at h
    split at h <;> cases h
  obtain ⟨artifacts, hlist, rfl⟩ :=
    Artifact.entries_eq_ok_iff.1 (yields_artifactsOf spec archetype hentries)
  dsimp only at h
  rw [firstRepeated_eq_none (nodup_manifest hlist hextension hfiles.1 hfiles.2)
    fun _ _ => List.not_mem_nil] at h
  cases h

/-- A structure is planned for every specification with a template and a toolchain, from every
    generator, and it is well formed, if the extension of its language is part of a name. Only
    otherwise may two files have one path. The toolchain is missing only of a language that has the
    name of a thing which every record inherits. -/
theorem plan_wellFormed (spec : Spec) (languages : List Language) (g : Gen) :
    (∀ failure g', (plan spec languages).run g = (.error (.failure failure), g') →
      failure.code = .pathConflict → '/' ∈ (extensionFor spec.language languages).toList) ∧
    ('/' ∉ (extensionFor spec.language languages).toList →
      ∀ template, spec.template = some template → Fields.isInherited spec.language = false →
        ∃ structured g', (plan spec languages).run g = (.ok structured, g') ∧
          structured.IsWellFormed) := by
  refine ⟨fun failure g' h _ => mem_extensionFor_of_failure h,
    fun hextension template htemplate hlanguage => ?_⟩
  obtain ⟨structured, g', hplan⟩ := isTotal_plan htemplate hlanguage hextension g
  exact ⟨structured, g', hplan, IsPlanned.isWellFormed ⟨g', hplan⟩ hextension⟩

/-- A mesh of a hundred services, with the default table of languages. -/
theorem plan_wellFormed_mesh :
    let spec : Spec := ⟨5001, "repo-05001-gateway", "microservices", some "gateway", "rust", 1000,
      100, [⟨"Ada", "ada@example.org"⟩]⟩
    '/' ∉ (extensionFor spec.language Corpus.bundledLanguages).toList ∧
      spec.template = some "gateway" ∧ Fields.isInherited spec.language = false ∧
      ∃ structured g', (plan spec Corpus.bundledLanguages).run (.ofText "seed:5001") =
        (.ok structured, g') ∧ structured.IsWellFormed := by
  intro spec
  have hextension : '/' ∉ (extensionFor spec.language Corpus.bundledLanguages).toList := by
    decide +kernel
  have hlanguage : Fields.isInherited spec.language = false := by decide
  exact ⟨hextension, rfl, hlanguage,
    (plan_wellFormed spec _ _).2 hextension "gateway" rfl hlanguage⟩

end Structure

end CorpusForge
