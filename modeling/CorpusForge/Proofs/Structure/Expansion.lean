import CorpusForge.Proofs.Artifact.Bundled
import CorpusForge.Proofs.Random.Choices
import CorpusForge.Proofs.Structure.Plan

/-!
# Structures can always be planned

The groups of a layout are expanded to files with different paths, and none of them is the path of
an artifact. So a structure is planned for every specification with a template, as long as the
extension of its language does not lead into another directory.

* `Structure.yields_areExpansions`: what files each group is expanded to;
* `Structure.yields_expandGroups`: the source files have different paths;
* `Structure.isTotal_plan`: no two files have one path;
* `Structure.yields_plan`: what files are rendered from templates.
-/

namespace CorpusForge

variable {ε : Type}

namespace Amount

theorem isTotal_draw (amount : Amount) : (amount.draw : Drawing ε Int).IsTotal := by
  cases amount with
  | fixed value => exact Drawing.isTotal_pure _
  | range low high ordered => exact Drawing.isTotal_within _ _

theorem yields_draw {amount : Amount} (h : amount.most < 2 ^ 53) :
    (amount.draw : Drawing ε Int).Yields fun n : Int => amount.least ≤ n ∧ n ≤ amount.most := by
  cases amount with
  | fixed value => exact Drawing.yields_pure ⟨le_rfl, le_rfl⟩
  | range low high ordered => exact Drawing.yields_within ordered h

end Amount

namespace Structure

variable {spec : Spec} {languages : List Language} {group : FileGroup} {groups : List FileGroup}

/-! ### Groups -/

theorem isTotal_groupEntries (group : FileGroup) (language extension : String)
    (files index : Nat) :
    (groupEntries group language extension files index :
      Drawing ε (List ManifestEntry)).IsTotal := by
  induction files generalizing index with
  | zero => exact Drawing.isTotal_pure _
  | succ files ih =>
    exact (Amount.isTotal_draw _).bind fun _ => (ih _).bind fun _ => Drawing.isTotal_pure _

/-- The entries of a group have its paths one after the other, and its role and kind. -/
theorem yields_groupEntries (group : FileGroup) (language extension : String)
    (files index : Nat) :
    (groupEntries group language extension files index :
      Drawing ε (List ManifestEntry)).Yields fun entries =>
        entries.map ManifestEntry.path = (List.range' index files).map (group.path extension) ∧
          ∀ entry ∈ entries, entry.role = group.role ∧ entry.kind = group.kind.getD .source := by
  induction files generalizing index with
  | zero => exact Drawing.yields_pure ⟨rfl, List.forall_mem_nil _⟩
  | succ files ih =>
    refine Drawing.yields_bind_of_forall fun lines => (ih _).bind fun rest hrest => ?_
    refine Drawing.yields_pure ⟨?_, List.forall_mem_cons.2 ⟨⟨rfl, rfl⟩, hrest.2⟩⟩
    exact congrArg (group.path extension index :: ·) hrest.1

theorem isTotal_expandGroup (group : FileGroup) (spec : Spec) (languages : List Language) :
    (expandGroup group spec languages : Drawing ε (List ManifestEntry)).IsTotal :=
  (Amount.isTotal_draw _).bind fun _ => isTotal_groupEntries _ _ _ _ _

theorem isTotal_expandGroups (spec : Spec) (languages : List Language)
    (groups : List FileGroup) :
    (expandGroups spec languages groups : Drawing ε (List ManifestEntry)).IsTotal := by
  induction groups with
  | nil => exact Drawing.isTotal_pure _
  | cons group rest ih =>
    exact (isTotal_expandGroup group spec languages).bind fun _ =>
      ih.bind fun _ => Drawing.isTotal_pure _

/-- The extension of a language is one of the table, or that of plain text. -/
theorem notMem_extensionFor
    (h : ∀ language ∈ languages, ∀ extension ∈ language.extensions, '/' ∉ extension.toList)
    (name : String) : '/' ∉ (extensionFor name languages).toList := by
  rw [extensionFor]
  cases hfind : (languages.find? fun language => language.name == name).bind fun language =>
      language.extensions.head? with
  | none => exact (by decide : '/' ∉ ".txt".toList)
  | some extension =>
    obtain ⟨language, hlanguage, hhead⟩ := Option.bind_eq_some_iff.1 hfind
    exact h language (List.mem_of_find?_eq_some hlanguage) extension (List.mem_of_head? hhead)

/-- When the extension of the language is part of a name, so is that of the group. -/
theorem notMem_groupExtension (hgroup : group.IsSound)
    (hextension : '/' ∉ (extensionFor spec.language languages).toList) :
    '/' ∉ (groupExtension group spec languages).toList := by
  rw [groupExtension]
  cases hlanguage : group.language with
  | none => exact hextension
  | some pinned => exact hgroup.extension pinned hlanguage

/-- An entry is a file that a group may have. Only migrations are rendered. -/
def IsFileOf (spec : Spec) (languages : List Language) (group : FileGroup)
    (entry : ManifestEntry) : Prop :=
  (∃ i < group.stem.capacity, entry.path = group.path (groupExtension group spec languages) i) ∧
    (entry.kind = .artifact → entry.role = .migration)

/-- Files that a group may be expanded to: as many as it may have, numbered from zero on. -/
structure IsExpansion (spec : Spec) (languages : List Language) (group : FileGroup)
    (entries : List ManifestEntry) : Prop where
  numbered : ∃ files, group.count.least ≤ files ∧ files ≤ group.count.most ∧
    entries.map ManifestEntry.path =
      (List.range files).map (group.path (groupExtension group spec languages))
  alike : ∀ entry ∈ entries, entry.role = group.role ∧ entry.kind = group.kind.getD .source

theorem yields_expandGroup (hgroup : group.IsSound) :
    (expandGroup group spec languages : Drawing ε (List ManifestEntry)).Yields
      (IsExpansion spec languages group) := by
  have hmost := (hgroup.count.trans_lt (Stem.capacity_lt _))
  refine (Amount.yields_draw hmost).bind fun count hcount => ?_
  intro g entries g' hrun
  obtain ⟨hpaths, halike⟩ := yields_groupEntries _ _ _ _ _ hrun
  rw [← List.range_eq_range'] at hpaths
  exact ⟨⟨count.toNat, by omega, by omega, hpaths⟩, halike⟩

namespace IsExpansion

variable {entries : List ManifestEntry}

/-- A file of a group has one of its paths. -/
theorem index (h : IsExpansion spec languages group entries) (hgroup : group.IsSound) :
    ∀ entry ∈ entries, ∃ i < group.stem.capacity,
      entry.path = group.path (groupExtension group spec languages) i := by
  intro entry hentry
  obtain ⟨files, -, hmost, hpaths⟩ := h.numbered
  have hmem := List.mem_map_of_mem (f := ManifestEntry.path) hentry
  rw [hpaths] at hmem
  obtain ⟨i, hi, heq⟩ := List.mem_map.1 hmem
  have hless := List.mem_range.1 hi
  have hcapacity := hgroup.count
  exact ⟨i, by omega, heq.symm⟩

theorem isFileOf (h : IsExpansion spec languages group entries) (hgroup : group.IsSound) :
    ∀ entry ∈ entries, IsFileOf spec languages group entry := by
  refine fun entry hentry => ⟨h.index hgroup entry hentry, fun hkind => ?_⟩
  obtain ⟨hrole, hsame⟩ := h.alike entry hentry
  rw [hrole]
  refine hgroup.kind ?_
  rw [hkind] at hsame
  cases hgiven : group.kind with
  | none => rw [hgiven] at hsame; exact nomatch hsame
  | some kind => rw [hgiven] at hsame; exact congrArg some hsame.symm

/-- The files of a group have different paths. -/
theorem nodup (h : IsExpansion spec languages group entries) (hgroup : group.IsSound)
    (hslash : '/' ∉ (groupExtension group spec languages).toList) :
    (entries.map ManifestEntry.path).Nodup := by
  obtain ⟨files, -, hmost, hpaths⟩ := h.numbered
  have hcapacity : ∀ i ∈ List.range files, i < group.stem.capacity := fun i hi =>
    (List.mem_range.1 hi).trans_le (hmost.trans hgroup.count)
  rw [hpaths]
  refine List.Nodup.map_on (fun i hi j hj heq => ?_) List.nodup_range
  exact hgroup.path_inj hslash (hcapacity i hi) (hcapacity j hj) heq

end IsExpansion

/-- Files that groups may be expanded to, one group after the other. -/
def AreExpansions (spec : Spec) (languages : List Language) (groups : List FileGroup)
    (entries : List ManifestEntry) : Prop :=
  ∃ parts : List (FileGroup × List ManifestEntry), parts.map Prod.fst = groups ∧
    (∀ part ∈ parts, IsExpansion spec languages part.1 part.2) ∧ entries = parts.flatMap Prod.snd

theorem yields_areExpansions (hgroups : ∀ group ∈ groups, group.IsSound) :
    (expandGroups spec languages groups : Drawing ε (List ManifestEntry)).Yields
      (AreExpansions spec languages groups) := by
  induction groups with
  | nil => exact Drawing.yields_pure ⟨[], rfl, List.forall_mem_nil _, rfl⟩
  | cons group rest ih =>
    obtain ⟨hgroup, hrest⟩ := List.forall_mem_cons.1 hgroups
    refine (yields_expandGroup hgroup).bind fun entries hentries =>
      (ih hrest).bind fun more hmore => Drawing.yields_pure ?_
    obtain ⟨parts, rfl, hparts, rfl⟩ := hmore
    exact ⟨(group, entries) :: parts, rfl, List.forall_mem_cons.2 ⟨hentries, hparts⟩, rfl⟩

/-- A file is one of those of a group. -/
theorem AreExpansions.exists_part {entries : List ManifestEntry}
    (h : AreExpansions spec languages groups entries) :
    ∀ entry ∈ entries, ∃ group ∈ groups, ∃ part, IsExpansion spec languages group part ∧
      entry ∈ part := by
  obtain ⟨parts, rfl, hparts, rfl⟩ := h
  intro entry hentry
  obtain ⟨part, hpart, hentry⟩ := List.mem_flatMap.1 hentry
  exact ⟨part.1, List.mem_map_of_mem hpart, part.2, hparts part hpart, hentry⟩

/-- The files of groups that are apart have different paths. -/
theorem yields_expandGroups (hgroups : ∀ group ∈ groups, group.IsSound)
    (hapart : groups.Pairwise FileGroup.IsApart)
    (hextension : '/' ∉ (extensionFor spec.language languages).toList) :
    (expandGroups spec languages groups : Drawing ε (List ManifestEntry)).Yields fun entries =>
      (entries.map ManifestEntry.path).Nodup ∧
        ∀ entry ∈ entries, ∃ group ∈ groups, IsFileOf spec languages group entry := by
  intro g entries g' hrun
  have hexpanded := yields_areExpansions hgroups hrun
  refine ⟨?_, fun entry hentry => ?_⟩
  · obtain ⟨parts, rfl, hparts, rfl⟩ := hexpanded
    have hsound : ∀ part ∈ parts, part.1.IsSound := fun part hpart =>
      hgroups _ (List.mem_map_of_mem hpart)
    rw [List.map_flatMap, List.nodup_flatMap]
    refine ⟨fun part hpart => (hparts part hpart).nodup (hsound part hpart)
      (notMem_groupExtension (hsound part hpart) hextension), ?_⟩
    refine (List.pairwise_map.1 hapart).imp_of_mem fun {part other} hpart hother hapart => ?_
    refine List.disjoint_left.2 fun path hpath hpath' => ?_
    obtain ⟨entry, hentry, rfl⟩ := List.mem_map.1 hpath
    obtain ⟨entry', hentry', heq⟩ := List.mem_map.1 hpath'
    obtain ⟨i, hi, hfile⟩ := (hparts part hpart).index (hsound part hpart) entry hentry
    obtain ⟨j, hj, hfile'⟩ := (hparts other hother).index (hsound other hother) entry' hentry'
    rw [hfile, hfile'] at heq
    refine FileGroup.path_ne_of_isApart (hsound part hpart) (hsound other hother) hapart
      (notMem_groupExtension (hsound part hpart) hextension)
      (notMem_groupExtension (hsound other hother) hextension) (fun hsame => ?_) hi hj heq.symm
    rw [groupExtension, groupExtension, hsame]
  · obtain ⟨group, hgroup, part, hpart, hentry⟩ := hexpanded.exists_part entry hentry
    exact ⟨group, hgroup, hpart.isFileOf (hgroups group hgroup) entry hentry⟩

/-! ### Structures -/

/-- A source file does not have the path of an artifact. -/
theorem path_notMem_of_isFileOf {entry : ManifestEntry} (hgroup : group.IsSound)
    (hextension : '/' ∉ (extensionFor spec.language languages).toList)
    (h : IsFileOf spec languages group entry) {language : String} {archetype : Archetype}
    {artifacts : List Artifact} (hlist : Artifact.list language archetype = .ok artifacts) :
    entry.path ∉ artifacts.map Artifact.path := by
  intro hmem
  obtain ⟨a, ha, hpath⟩ := List.mem_map.1 hmem
  obtain ⟨⟨i, hi, hfile⟩, -⟩ := h
  have hholder := hgroup.holder_path (notMem_groupExtension hgroup hextension) hi
  rw [← hfile, ← hpath] at hholder
  rcases Artifact.holder_of_mem_list hlist ha with hnone | ⟨folder, hfolder, hsame⟩
  · -- an artifact that lies in no directory
    rw [hnone] at hholder
    exact Text.splitAt_ne_nil _ _ hholder.symm
  · rw [hsame] at hholder
    have hdir := String.toList_injective (Text.splitAt_injective '/' hholder)
    rw [hdir] at hfolder
    exact hgroup.outside hfolder

/-- Without a repetition, none is found. -/
theorem firstRepeated_eq_none {seen paths : List String} (hnodup : paths.Nodup)
    (hseen : ∀ path ∈ paths, path ∉ seen) : firstRepeated seen paths = none := by
  induction paths generalizing seen with
  | nil => rfl
  | cons path rest ih =>
    obtain ⟨hpath, hrest⟩ := List.forall_mem_cons.1 hseen
    obtain ⟨hnot, hnodup⟩ := List.nodup_cons.1 hnodup
    rw [firstRepeated, if_neg (by simpa using hpath)]
    refine ih hnodup fun other hother hmem => ?_
    rcases List.mem_cons.1 hmem with rfl | hmem
    · exact hnot hother
    · exact hrest other hother hmem

/-- The files of a repository have different paths. -/
theorem nodup_manifest {archetype : Archetype} {sources : List ManifestEntry}
    {artifacts : List Artifact} (hlist : Artifact.list spec.language archetype = .ok artifacts)
    (hextension : '/' ∉ (extensionFor spec.language languages).toList)
    (hnodup : (sources.map ManifestEntry.path).Nodup)
    (hfiles : ∀ entry ∈ sources, ∃ group ∈ (Layout.of archetype spec.category).groups,
      IsFileOf spec languages group entry) :
    ((sources ++ artifacts.map (Artifact.entry spec.language)).map ManifestEntry.path).Nodup := by
  rw [List.map_append, Artifact.map_path_entry]
  refine List.nodup_append.2
    ⟨hnodup, Artifact.nodup_list hlist, fun path hpath _ hpath' heq => ?_⟩
  obtain ⟨entry, hentry, rfl⟩ := List.mem_map.1 hpath
  obtain ⟨group, hgroup, hfile⟩ := hfiles entry hentry
  have hsound := (Layout.isSound_of archetype spec.category).groups group hgroup
  rw [← heq] at hpath'
  exact path_notMem_of_isFileOf hsound hextension hfile hlist hpath'

/-- A structure can be planned for every specification with a template and a toolchain. -/
theorem isTotal_plan {template : String} (htemplate : spec.template = some template)
    (hlanguage : Fields.isInherited spec.language = false)
    (hextension : '/' ∉ (extensionFor spec.language languages).toList) :
    (plan spec languages).IsTotal := by
  have hkind : archetypeOf spec = pure (.classify spec.category template) := by
    rw [archetypeOf, htemplate]
  rw [plan, hkind]
  refine (Drawing.isTotal_pure _).bind fun archetype => ?_
  obtain ⟨hgroups, hapart⟩ := Layout.isSound_of archetype spec.category
  refine (isTotal_expandGroups _ _ _).bind_of_yields
    (yields_expandGroups hgroups hapart hextension) fun sources hsources => ?_
  obtain ⟨artifacts, hlist⟩ := Artifact.exists_list hlanguage archetype
  have hentries : artifactsOf spec archetype =
      pure (artifacts.map (Artifact.entry spec.language)) := by
    rw [artifactsOf, Artifact.entries_eq_ok_iff.2 ⟨_, hlist, rfl⟩]
  rw [hentries]
  refine (Drawing.isTotal_pure _).bind_of_yields (Drawing.yields_pure rfl) ?_
  rintro _ rfl
  dsimp only
  rw [firstRepeated_eq_none (nodup_manifest hlist hextension hsources.1 hsources.2)
    fun _ _ => List.not_mem_nil]
  exact Drawing.isTotal_pure _

/-- A file that is rendered is a migration or a listed artifact. -/
theorem yields_plan (hextension : '/' ∉ (extensionFor spec.language languages).toList) :
    (plan spec languages).Yields fun structured => ∃ artifacts,
      Artifact.list spec.language structured.archetype = .ok artifacts ∧
        ∀ entry ∈ structured.manifest, entry.kind = .artifact →
          entry.role = .migration ∨ entry.path ∈ artifacts.map Artifact.path := by
  refine Drawing.yields_bind_of_forall fun archetype => ?_
  obtain ⟨hgroups, hapart⟩ := Layout.isSound_of archetype spec.category
  refine (yields_expandGroups hgroups hapart hextension).bind fun sources hsources => ?_
  refine (yields_artifactsOf spec archetype).bind fun entries hentries => ?_
  obtain ⟨artifacts, hlist, rfl⟩ := Artifact.entries_eq_ok_iff.1 hentries
  dsimp only
  split
  next => exact Drawing.yields_refuse _
  next =>
    refine Drawing.yields_pure ⟨artifacts, hlist,
      List.forall_mem_append.2 ⟨fun entry hentry hkind => ?_, ?_⟩⟩
    · obtain ⟨group, -, -, hrole⟩ := hsources.2 entry hentry
      exact .inl (hrole hkind)
    · exact List.forall_mem_map.2 fun a ha _ => .inr (List.mem_map_of_mem ha)

end Structure

end CorpusForge
