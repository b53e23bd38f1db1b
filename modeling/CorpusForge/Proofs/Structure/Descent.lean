import CorpusForge.Proofs.Path.Descent
import CorpusForge.Proofs.Structure.Expansion

/-!
# Structures lead down

All paths of a planned structure lead down from the directory of its repository, whatever the
extension of its language is. An extension that takes the names of files away again would give one
path to all files of a group, and a layout with groups in the language of the repository has one of
them that always gets two files. So nothing is planned with such an extension.

* `Structure.IsPlanned.not_climbs`: the extensions of planned files;
* `Structure.IsPlanned.leadsDown`: the directories and the files.
-/

namespace CorpusForge

variable {ε : Type}

/-! ### Layouts -/

namespace Layout

/-- The groups of a layout that follow the language of the repository, if there are any, are not all
    single files. -/
def IsRepeating (layout : Layout) : Prop :=
  ∀ group ∈ layout.groups, group.language = none →
    ∃ other ∈ layout.groups, other.language = none ∧ 2 ≤ other.count.least

instance : DecidablePred IsRepeating := fun layout =>
  inferInstanceAs (Decidable (∀ group ∈ layout.groups, group.language = none →
    ∃ other ∈ layout.groups, other.language = none ∧ 2 ≤ other.count.least))

theorem isRepeating_of (archetype : Archetype) (category : String) :
    (Layout.of archetype category).IsRepeating := by
  refine forall_of (by decide) (fun category _ _ _ => ?_) archetype category
  -- the tests of the gateway are never a single file
  refine ⟨many ("api-gateway" ++ "/tests") "test" .test (.range 5 15) (.range 50 150), ?_, rfl,
    by decide⟩
  exact List.mem_flatMap.2 ⟨"api-gateway", List.mem_cons_self, by simp [serviceGroups]⟩

theorem isPlain_of_mem_directories_serviceMesh (category : String) :
    ∀ dir ∈ (serviceMesh category).directories, Path.IsPlain dir := by
  have hshared : ∀ dir ∈ ["shared/models", "shared/utils", "infrastructure"],
      Path.IsPlain dir := by decide
  refine List.forall_mem_append.2 ⟨fun dir hdir => ?_, hshared⟩
  obtain ⟨root, hroot, hdir⟩ := List.mem_flatMap.1 hdir
  have hservice : ∀ name ∈ ["src", "tests", "config"], Path.IsPlain (root ++ "/" ++ name) := by
    have hnames : ∀ name ∈ ["src", "tests", "config"], Path.IsPlain name := by decide
    exact fun name hname => (isPlain_of_service hroot (hnames name hname)).1
  have hdirs : ∀ dir ∈ [root ++ "/src", root ++ "/tests", root ++ "/config"],
      Path.IsPlain dir := by simpa [String.append_assoc] using hservice
  exact hdirs dir hdir

theorem isPlain_of_mem_directories {archetype : Archetype} {category : String} :
    ∀ dir ∈ (Layout.of archetype category).directories, Path.IsPlain dir :=
  forall_of (P := fun layout => ∀ dir ∈ layout.directories, Path.IsPlain dir) (by decide)
    isPlain_of_mem_directories_serviceMesh archetype category

end Layout

theorem Artifact.isPlain_path {a : Artifact} (h : a ∈ known) : Path.IsPlain a.path := by
  have hall : ∀ a ∈ known, Path.IsPlain a.path := by decide +kernel
  exact hall a h

/-! ### Groups -/

namespace FileGroup

variable {group : FileGroup} {extension : String} {i j : Nat}

/-- The name of a file, without the extension. -/
theorem IsSound.stem (h : group.IsSound) (hi : i < group.stem.capacity) :
    Path.IsName (group.stem.name (.ofNat i)).toList ∧
      '/' ∉ (group.stem.name (.ofNat i)).toList := by
  have hempty : '/' ∉ "".toList := List.not_mem_nil
  obtain ⟨hslash, hplain⟩ := h.file hempty hi
  rw [String.append_empty] at hslash hplain
  rw [Path.IsPlain, Text.splitAt_of_notMem hslash] at hplain
  exact ⟨hplain _ List.mem_cons_self, hslash⟩

theorem IsSound.leadsDown_path (h : group.IsSound) (hi : i < group.stem.capacity)
    (hextension : ¬Path.Climbs extension) : Path.LeadsDown (group.path extension i) :=
  Path.leadsDown_join h.dir (h.stem hi).1 (h.stem hi).2 hextension

theorem IsSound.path_eq_path (h : group.IsSound) (hi : i < group.stem.capacity)
    (hj : j < group.stem.capacity) (hextension : Path.Climbs extension) :
    group.path extension i = group.path extension j :=
  Path.join_eq_join_of_climbs h.dir (h.stem hi).1 (h.stem hi).2 (h.stem hj).1 (h.stem hj).2
    hextension

end FileGroup

namespace Structure

variable {spec : Spec} {languages : List Language} {groups : List FileGroup} {g : Gen}
  {structured : Structure}

/-- A group that always gets two files has its first two. -/
theorem AreExpansions.two {entries : List ManifestEntry}
    (h : AreExpansions spec languages groups entries) {group : FileGroup} (hgroup : group ∈ groups)
    (htwo : 2 ≤ group.count.least) :
    List.Sublist ([0, 1].map (group.path (groupExtension group spec languages)))
      (entries.map ManifestEntry.path) := by
  obtain ⟨parts, rfl, hparts, rfl⟩ := h
  obtain ⟨part, hpart, rfl⟩ := List.mem_map.1 hgroup
  obtain ⟨files, hleast, -, hpaths⟩ := (hparts part hpart).numbered
  obtain ⟨before, after, rfl⟩ := List.append_of_mem hpart
  obtain ⟨later, rfl⟩ := Nat.exists_eq_add_of_le (htwo.trans hleast)
  simp only [List.flatMap_append, List.flatMap_cons, List.map_append, hpaths]
  refine List.Sublist.trans (List.Sublist.map _ ?_)
    ((List.sublist_append_left _ _).trans (List.sublist_append_right _ _))
  rw [List.range_add]
  exact List.sublist_append_left _ _

/-- No planned structure has an extension that takes the names of files away. -/
theorem IsPlanned.not_climbs (h : IsPlanned spec languages g structured) :
    ∀ group ∈ (Layout.of structured.archetype spec.category).groups,
      ¬Path.Climbs (groupExtension group spec languages) := by
  obtain ⟨g₁, g₂, sources, artifacts, hsources, -, hmanifest, hnodup, -⟩ := h.exists_sources
  obtain ⟨hsound, -⟩ := Layout.isSound_of structured.archetype spec.category
  have hexpanded := yields_areExpansions hsound hsources
  intro group hgroup hclimbs
  cases hlanguage : group.language with
  | some pinned =>
    refine Path.not_climbs_of_notMem ?_ hclimbs
    rw [groupExtension, hlanguage]
    exact (hsound group hgroup).extension pinned hlanguage
  | none =>
    -- another group with the same extension has two files, which would have one path
    obtain ⟨other, hother, hnone, htwo⟩ := Layout.isRepeating_of _ _ group hgroup hlanguage
    have htwice := hexpanded.two hother htwo
    have hcapacity := (hsound other hother).count
    have hmost := other.count.least_le_most
    have hsame : groupExtension other spec languages = groupExtension group spec languages := by
      rw [groupExtension, groupExtension, hnone, hlanguage]
    rw [← hsame] at hclimbs
    rw [hmanifest, List.map_append] at hnodup
    have hdifferent : other.path (groupExtension other spec languages) 0 ≠
        other.path (groupExtension other spec languages) 1 := by
      simpa using (hnodup.of_append_left).sublist htwice
    exact hdifferent ((hsound other hother).path_eq_path (by omega) (by omega) hclimbs)

/-- A planned structure leads down from the directory of its repository. -/
theorem IsPlanned.leadsDown (h : IsPlanned spec languages g structured) :
    (∀ dir ∈ structured.directories, Path.IsPlain dir) ∧
      ∀ entry ∈ structured.manifest, Path.LeadsDown entry.path := by
  have hfiles : ∀ entry ∈ structured.manifest, Path.LeadsDown entry.path := by
    have hnever := h.not_climbs
    obtain ⟨g₁, g₂, sources, artifacts, hsources, hlist, hmanifest, -⟩ := h.exists_sources
    obtain ⟨hsound, -⟩ := Layout.isSound_of structured.archetype spec.category
    rw [hmanifest]
    refine List.forall_mem_append.2 ⟨fun entry hentry => ?_, List.forall_mem_map.2 fun a ha => ?_⟩
    · obtain ⟨group, hgroup, part, hpart, hentry⟩ :=
        (yields_areExpansions hsound hsources).exists_part entry hentry
      obtain ⟨i, hi, hpath⟩ := hpart.index (hsound group hgroup) entry hentry
      rw [hpath]
      exact (hsound group hgroup).leadsDown_path hi (hnever group hgroup)
    · exact Path.leadsDown_of_isPlain (Artifact.isPlain_path (Artifact.list_subset_known hlist ha))
  refine ⟨fun dir hdir => ?_, hfiles⟩
  obtain ⟨-, -, -, -, -, -, -, -, hdirectories⟩ := h.exists_sources
  rw [hdirectories, directoriesOf, Text.sort, List.mem_mergeSort, List.mem_eraseDups] at hdir
  rcases List.mem_append.1 hdir with hdir | hdir
  · exact Layout.isPlain_of_mem_directories dir hdir
  · obtain ⟨hdir, hdot⟩ := List.mem_filter.1 hdir
    simp only [List.mem_map] at hdir
    obtain ⟨_, ⟨entry, hentry, rfl⟩, rfl⟩ := hdir
    obtain ⟨names, -, hway⟩ := hfiles entry hentry
    exact Path.isPlain_dirname hway (of_decide_eq_true hdot)

end Structure

end CorpusForge
