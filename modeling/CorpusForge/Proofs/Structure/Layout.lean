import CorpusForge.Artifact.Catalog
import CorpusForge.Proofs.Number.Text
import CorpusForge.Proofs.Path

/-!
# Layouts name every file once

The number of a file tells it from the others of its group, and two groups of a layout either
write into different directories or name their files in different ways. No group writes into the
directory of an artifact.

* `Stem.name_inj`: the files of a group;
* `FileGroup.path_ne_of_isApart`: the files of two groups;
* `serviceName_injective`: no two services of a mesh have one name;
* `Layout.forall_of`: what is shown of every layout;
* `Layout.isSound_of`: so it is in every layout.
-/

namespace CorpusForge

/-! ### Stems -/

namespace Amount

/-- The least number that may be drawn. -/
def least : Amount → Nat
  | fixed value => value
  | range low _ _ => low

/-- The greatest number that may be drawn. -/
def most : Amount → Nat
  | fixed value => value
  | range _ high _ => high

theorem least_le_most (amount : Amount) : amount.least ≤ amount.most := by
  cases amount with
  | fixed value => exact le_rfl
  | range low high ordered => exact ordered

end Amount

namespace Stem

/-- What the names of all files begin with. -/
def label : Stem → String
  | named name | numbered name _ => name

/-- How many files have names of their own. -/
def capacity : Stem → Nat
  | named _ => 1
  | numbered _ _ => 2 ^ 53 - 1

/-- Two ways of naming files that have no name in common. -/
def isApart : Stem → Stem → Bool
  | named name, named name' => name ≠ name'
  | named name, numbered _ _ | numbered _ _, named name => !name.toList.getLast?.any Char.isDigit
  | numbered _ _, numbered _ _ => false

variable {s s' : Stem} {i j : Nat}

theorem toList_name_numbered (name : String) (width : Nat) (hi : i < 2 ^ 53) :
    ((numbered name width).name (.ofNat i)).toList =
      name.toList ++ Text.padLeft width '0' (Decimal.digitsOf i) := by
  rw [Stem.name, Number.ofNat_eq hi.le, Number.text_natCast hi, String.toList_append]
  simp

theorem capacity_lt (s : Stem) : s.capacity < 2 ^ 53 := by
  cases s <;> simp [capacity]

/-- Behind the label there are digits, if anything. -/
theorem exists_toList_name (hi : i < s.capacity) :
    ∃ digits : List Char, (∀ c ∈ digits, c.isDigit = true) ∧
      (s.name (.ofNat i)).toList = s.label.toList ++ digits := by
  cases s with
  | named name => exact ⟨[], fun _ hmem => absurd hmem List.not_mem_nil, (List.append_nil _).symm⟩
  | numbered name width =>
    exact ⟨_, fun _ => Decimal.isDigit_of_mem_padLeft,
      toList_name_numbered name width (hi.trans (capacity_lt _))⟩

/-- The files of a group have different names. -/
theorem name_inj (hi : i < s.capacity) (hj : j < s.capacity)
    (h : s.name (.ofNat i) = s.name (.ofNat j)) : i = j := by
  cases s with
  | named name =>
    rw [capacity] at hi hj
    omega
  | numbered name width =>
    have hcs := congrArg String.toList h
    rw [toList_name_numbered name width (hi.trans (capacity_lt _)),
      toList_name_numbered name width (hj.trans (capacity_lt _))] at hcs
    exact Decimal.padLeft_digitsOf_injective width (List.append_cancel_left hcs)

/-- A name that does not end in a digit is not numbered. -/
theorem ne_name_numbered {name name' : String} {width : Nat} (hi : i < 2 ^ 53)
    (h : name.toList.getLast?.any Char.isDigit = false) :
    name ≠ (numbered name' width).name (.ofNat i) := by
  intro heq
  have hdigits := Decimal.padLeft_digitsOf_ne_nil width i
  rw [heq, toList_name_numbered name' width hi, List.getLast?_append_of_ne_nil _ hdigits,
    List.getLast?_eq_some_getLast hdigits, Option.any_some,
    Decimal.isDigit_of_mem_padLeft (List.getLast_mem hdigits)] at h
  exact nomatch h

theorem name_ne_of_isApart (h : s.isApart s' = true) (hi : i < s.capacity)
    (hj : j < s'.capacity) : s.name (.ofNat i) ≠ s'.name (.ofNat j) := by
  cases s with
  | named name =>
    cases s' with
    | named name' => simpa [isApart, Stem.name] using h
    | numbered name' width =>
      rw [isApart, Bool.not_eq_true'] at h
      exact ne_name_numbered (hj.trans (capacity_lt _)) h
  | numbered name width =>
    cases s' with
    | named name' =>
      rw [isApart, Bool.not_eq_true'] at h
      exact (ne_name_numbered (hi.trans (capacity_lt _)) h).symm
    | numbered name' width' => exact nomatch h

end Stem

/-! ### Groups -/

/-- The directories below that of a repository in which artifacts lie. -/
def Artifact.folders : List String :=
  [".github/workflows", "infrastructure/k8s", "infrastructure/terraform"]

namespace FileGroup

/-- The path of a file. -/
def path (group : FileGroup) (extension : String) (index : Nat) : String :=
  Path.join [group.dir, group.stem.name (.ofNat index) ++ extension]

/-- A group whose files have paths of their own, away from the artifacts. Only migrations are
    rendered from a template. -/
structure IsSound (group : FileGroup) : Prop where
  dir : Path.IsPlain group.dir
  label : Path.IsName group.stem.label.toList
  noSlash : '/' ∉ group.stem.label.toList
  count : group.count.most ≤ group.stem.capacity
  extension : ∀ pinned ∈ group.language, '/' ∉ pinned.extension.toList
  kind : group.kind = some .artifact → group.role = .migration
  outside : group.dir ∉ Artifact.folders

instance : DecidablePred IsSound := fun group =>
  decidable_of_iff (Path.IsPlain group.dir ∧ Path.IsName group.stem.label.toList ∧
      '/' ∉ group.stem.label.toList ∧ group.count.most ≤ group.stem.capacity ∧
      (∀ pinned ∈ group.language, '/' ∉ pinned.extension.toList) ∧
      (group.kind = some .artifact → group.role = .migration) ∧ group.dir ∉ Artifact.folders)
    ⟨fun ⟨hdir, hlabel, hslash, hcount, hextension, hkind, houtside⟩ =>
      ⟨hdir, hlabel, hslash, hcount, hextension, hkind, houtside⟩,
      fun h => ⟨h.dir, h.label, h.noSlash, h.count, h.extension, h.kind, h.outside⟩⟩

/-- Two groups in different directories, or with different names and one language. -/
def IsApart (group group' : FileGroup) : Prop :=
  group.dir ≠ group'.dir ∨
    group.language = group'.language ∧ group.stem.isApart group'.stem = true

instance : DecidableRel IsApart := fun group group' =>
  inferInstanceAs (Decidable (group.dir ≠ group'.dir ∨
    group.language = group'.language ∧ group.stem.isApart group'.stem = true))

variable {group group' : FileGroup} {extension extension' : String} {i j : Nat}

/-- The name of a file is a name. -/
theorem IsSound.file (h : group.IsSound) (hextension : '/' ∉ extension.toList)
    (hi : i < group.stem.capacity) :
    '/' ∉ (group.stem.name (.ofNat i) ++ extension).toList ∧
      Path.IsPlain (group.stem.name (.ofNat i) ++ extension) := by
  obtain ⟨digits, hdigits, hname⟩ := Stem.exists_toList_name hi
  have hcs : (group.stem.name (.ofNat i) ++ extension).toList =
      group.stem.label.toList ++ (digits ++ extension.toList) := by
    rw [String.toList_append, hname, List.append_assoc]
  have hslash : '/' ∉ (group.stem.name (.ofNat i) ++ extension).toList := by
    simp only [hcs, List.mem_append, not_or]
    exact ⟨h.noSlash, fun hmem => absurd (hdigits _ hmem) (by decide), hextension⟩
  refine ⟨hslash, Path.isPlain_of_isName ?_ hslash⟩
  rw [hcs]
  exact h.label.append _

/-- The files of a group have different paths. -/
theorem IsSound.path_inj (h : group.IsSound) (hextension : '/' ∉ extension.toList)
    (hi : i < group.stem.capacity) (hj : j < group.stem.capacity)
    (heq : group.path extension i = group.path extension j) : i = j := by
  obtain ⟨hslash, hplain⟩ := h.file hextension hi
  obtain ⟨hslash', hplain'⟩ := h.file hextension hj
  obtain ⟨-, hname⟩ := Path.eq_of_join_pair_eq h.dir hplain hslash h.dir hplain' hslash' heq
  exact Stem.name_inj hi hj ((String.append_left_inj _).1 hname)

/-- The files of groups that are apart have different paths. Groups of one language use one
    extension. -/
theorem path_ne_of_isApart (h : group.IsSound) (h' : group'.IsSound)
    (hapart : group.IsApart group') (hextension : '/' ∉ extension.toList)
    (hextension' : '/' ∉ extension'.toList)
    (hlanguage : group.language = group'.language → extension = extension')
    (hi : i < group.stem.capacity) (hj : j < group'.stem.capacity) :
    group.path extension i ≠ group'.path extension' j := by
  intro heq
  obtain ⟨hslash, hplain⟩ := h.file hextension hi
  obtain ⟨hslash', hplain'⟩ := h'.file hextension' hj
  obtain ⟨hdir, hname⟩ := Path.eq_of_join_pair_eq h.dir hplain hslash h'.dir hplain' hslash' heq
  rcases hapart with hapart | ⟨hsame, hapart⟩
  · exact hapart hdir
  · rw [hlanguage hsame] at hname
    exact Stem.name_ne_of_isApart hapart hi hj ((String.append_left_inj _).1 hname)

/-- The files of a group lie in its directory. -/
theorem IsSound.holder_path (h : group.IsSound) (hextension : '/' ∉ extension.toList)
    (hi : i < group.stem.capacity) :
    Path.holder (group.path extension i) = Text.splitAt '/' group.dir.toList := by
  obtain ⟨hslash, hplain⟩ := h.file hextension hi
  exact Path.holder_join_pair h.dir hplain hslash

end FileGroup

/-! ### Services -/

/-- The names that services take in turn are words. -/
theorem isLower_of_mem_serviceRotation :
    ∀ name ∈ serviceRotation, name ≠ "" ∧ name.toList.all Char.isLower = true := by decide

/-- What stands behind the name of a service in a round. -/
def roundMark (round : Nat) : List Char :=
  if round = 0 then [] else '-' :: Decimal.digitsOf round

theorem roundMark_injective : Function.Injective roundMark := by
  intro m n h
  simp only [roundMark] at h
  split at h <;> split at h
  next hm hn => rw [hm, hn]
  next => exact nomatch h
  next => exact nomatch h
  next => exact Decimal.digitsOf_injective (List.cons.inj h).2

/-- The name of a service is one of the rotation with its round behind it. -/
theorem exists_toList_serviceName (index : Nat) :
    ∃ name, serviceRotation[index % 10]? = some name ∧
      (serviceName index).toList = name.toList ++ roundMark (index / 10) := by
  have hlength : serviceRotation.length = 10 := rfl
  have hindex : index % 10 < serviceRotation.length := Nat.mod_lt _ (by norm_num)
  refine ⟨_, List.getElem?_eq_getElem hindex, ?_⟩
  simp only [serviceName, hlength, List.getElem?_eq_getElem hindex, Option.getD_some, roundMark]
  split
  · rw [List.append_nil]
  · simp [Decimal.natText]

/-- No two services have one name. -/
theorem serviceName_injective : Function.Injective serviceName := by
  -- the words of the rotation have no dash, so a name tells its word and its round
  have hword : ∀ {name : String} {index : Nat}, serviceRotation[index % 10]? = some name →
      (name.toList ++ roundMark (index / 10)).takeWhile (· ≠ '-') = name.toList := by
    intro name index hname
    obtain ⟨-, hlower⟩ := isLower_of_mem_serviceRotation name (List.mem_of_getElem? hname)
    rw [List.takeWhile_append_of_pos fun c hc => ?_]
    · rw [roundMark]
      split <;> simp
    · rw [decide_eq_true_eq]
      rintro rfl
      exact absurd (List.all_eq_true.1 hlower _ hc) (by decide)
  intro i j h
  obtain ⟨name, hname, hi⟩ := exists_toList_serviceName i
  obtain ⟨name', hname', hj⟩ := exists_toList_serviceName j
  rw [h, hj] at hi
  have hsame : name' = name := by
    apply String.toList_injective
    rw [← hword hname, ← hword hname', hi]
  subst hsame
  have hround : j / 10 = i / 10 := roundMark_injective (List.append_cancel_left hi)
  have hmod : i % 10 = j % 10 := by
    have hindex : i % 10 < serviceRotation.length := Nat.mod_lt _ (by decide)
    exact (List.getElem?_inj hindex (by decide)).1 (hname.trans hname'.symm)
  omega

/-- The name of a service has small letters, digits and dashes only. -/
theorem notMem_serviceName (index : Nat) {c : Char} (hlower : c.isLower = false) (hdash : c ≠ '-')
    (hdigit : c.isDigit = false) : c ∉ (serviceName index).toList := by
  obtain ⟨name, hname, hcs⟩ := exists_toList_serviceName index
  obtain ⟨-, hword⟩ := isLower_of_mem_serviceRotation name (List.mem_of_getElem? hname)
  rw [hcs, List.mem_append, not_or]
  refine ⟨fun hmem => ?_, fun hmem => ?_⟩
  · rw [List.all_eq_true.1 hword c hmem] at hlower
    exact nomatch hlower
  · rw [roundMark] at hmem
    split at hmem
    · exact absurd hmem List.not_mem_nil
    · refine (List.mem_cons.1 hmem).elim hdash fun hmem => ?_
      rw [Nat.isDigit_of_mem_toDigits (by norm_num) (by norm_num) hmem] at hdigit
      exact nomatch hdigit

/-- The name of a service can be the name of a directory. -/
theorem isPlain_serviceName (index : Nat) : Path.IsPlain (serviceName index) := by
  obtain ⟨name, hname, hcs⟩ := exists_toList_serviceName index
  obtain ⟨hsome, -⟩ := isLower_of_mem_serviceRotation name (List.mem_of_getElem? hname)
  have hdot : '.' ∉ (serviceName index).toList :=
    notMem_serviceName index (by decide) (by decide) (by decide)
  refine Path.isPlain_of_isName ⟨fun hnil => ?_, fun hone => ?_, fun htwo => ?_⟩
    (notMem_serviceName index (by decide) (by decide) (by decide))
  · rw [hcs] at hnil
    exact hsome (String.toList_injective (List.append_eq_nil_iff.1 hnil).1)
  · exact hdot (by simp [hone])
  · exact hdot (by simp [htwo])

namespace Layout

/-- A layout whose groups are sound, and apart from each other. -/
structure IsSound (layout : Layout) : Prop where
  groups : ∀ group ∈ layout.groups, group.IsSound
  apart : layout.groups.Pairwise FileGroup.IsApart

instance : DecidablePred IsSound := fun layout =>
  decidable_of_iff ((∀ group ∈ layout.groups, group.IsSound) ∧
      layout.groups.Pairwise FileGroup.IsApart)
    ⟨fun ⟨hgroups, hapart⟩ => ⟨hgroups, hapart⟩, fun h => ⟨h.groups, h.apart⟩⟩

/-! ### Meshes -/

theorem eq_of_mem_serviceRoots {category root : String} (h : root ∈ serviceRoots category) :
    root = "api-gateway" ∨ ∃ index, root = "services/" ++ serviceName index := by
  rcases List.mem_cons.1 h with hgateway | hservice
  · exact .inl hgateway
  · obtain ⟨index, -, hindex⟩ := List.mem_map.1 hservice
    exact .inr ⟨index, hindex.symm⟩

theorem nodup_serviceRoots (category : String) : (serviceRoots category).Nodup := by
  refine List.nodup_cons.2 ⟨fun hmem => ?_, List.Nodup.map (fun i j h => ?_) List.nodup_range⟩
  · obtain ⟨index, -, hindex⟩ := List.mem_map.1 hmem
    have hhead := congrArg (fun path => (String.toList path).head?) hindex
    rw [String.toList_append] at hhead
    exact nomatch hhead
  · exact serviceName_injective ((String.append_right_inj _).1 h)

/-- The directory of a service begins with a letter that no directory of artifacts begins with. -/
theorem isPlain_of_mem_serviceRoots {category root : String} (h : root ∈ serviceRoots category) :
    Path.IsPlain root ∧ (root.toList.head? = some 'a' ∨ root.toList.head? = some 's') := by
  rcases eq_of_mem_serviceRoots h with rfl | ⟨index, rfl⟩
  · exact ⟨by decide, .inl (by decide)⟩
  · have hservices : "services/" = "services" ++ "/" := rfl
    refine ⟨?_, .inr ?_⟩
    · rw [hservices]
      exact Path.isPlain_append (by decide) (isPlain_serviceName index)
    · rw [String.toList_append]
      rfl

/-- A directory of a service. -/
theorem isPlain_of_service {category root : String} (h : root ∈ serviceRoots category)
    {name : String} (hname : Path.IsPlain name) :
    Path.IsPlain (root ++ "/" ++ name) ∧ root ++ "/" ++ name ∉ Artifact.folders := by
  obtain ⟨hroot, hhead⟩ := isPlain_of_mem_serviceRoots h
  refine ⟨Path.isPlain_append hroot hname, fun hmem => ?_⟩
  have hfolders : ∀ folder ∈ Artifact.folders, folder.toList.head? ≠ some 'a' ∧
      folder.toList.head? ≠ some 's' := by decide
  have hfolder := hfolders _ hmem
  rw [String.toList_append, String.toList_append, List.append_assoc, List.head?_append] at hfolder
  rcases hhead with hhead | hhead
  · exact hfolder.1 (by rw [hhead]; rfl)
  · exact hfolder.2 (by rw [hhead]; rfl)

theorem isSound_serviceGroups {category root : String} (h : root ∈ serviceRoots category) :
    ∀ group ∈ serviceGroups root, group.IsSound := by
  have hsrc : root ++ "/src" = root ++ "/" ++ "src" := by rw [String.append_assoc]; rfl
  have htests : root ++ "/tests" = root ++ "/" ++ "tests" := by rw [String.append_assoc]; rfl
  have single : ∀ name role lines, Path.IsName name.toList → '/' ∉ name.toList →
      (single (root ++ "/src") name role lines).IsSound := by
    intro name role lines hname hslash
    have hsource : Path.IsPlain "src" := by decide
    obtain ⟨hdir, houtside⟩ := isPlain_of_service h hsource
    rw [hsrc]
    exact ⟨hdir, hname, hslash, le_rfl, nofun, nofun, houtside⟩
  have hname : Path.IsPlain "tests" := by decide
  obtain ⟨hdir, houtside⟩ := isPlain_of_service h hname
  simp only [serviceGroups, List.forall_mem_cons]
  refine ⟨single _ _ _ (by decide) (by decide), single _ _ _ (by decide) (by decide),
    single _ _ _ (by decide) (by decide), single _ _ _ (by decide) (by decide), ?_,
    List.forall_mem_nil _⟩
  have label : Path.IsName "test".toList ∧ '/' ∉ "test".toList := by decide
  rw [htests]
  exact ⟨hdir, label.1, label.2, by norm_num [many, Amount.most, Stem.capacity], nofun, nofun,
    houtside⟩

theorem isApart_serviceGroups (root : String) :
    (serviceGroups root).Pairwise FileGroup.IsApart := by
  have hdirs : root ++ "/src" ≠ root ++ "/tests" := fun h => by
    rw [String.append_right_inj] at h
    exact absurd h (by decide)
  -- the sources of a service have different names, and its tests another directory
  have sources : ∀ {name name' : String} {role role' lines lines'}, name ≠ name' →
      (single (root ++ "/src") name role lines).IsApart
        (single (root ++ "/src") name' role' lines') := fun hne =>
    .inr ⟨rfl, by simpa [single, Stem.isApart] using hne⟩
  have tests : ∀ {name : String} {role lines count lines'},
      (single (root ++ "/src") name role lines).IsApart
        (many (root ++ "/tests") "test" .test count lines') := .inl hdirs
  refine .cons ?_ (.cons ?_ (.cons ?_ (.cons ?_ (List.pairwise_singleton _ _)))) <;>
    simp only [List.forall_mem_cons]
  · exact ⟨sources (by decide), sources (by decide), sources (by decide), tests,
      List.forall_mem_nil _⟩
  · exact ⟨sources (by decide), sources (by decide), tests, List.forall_mem_nil _⟩
  · exact ⟨sources (by decide), tests, List.forall_mem_nil _⟩
  · exact ⟨tests, List.forall_mem_nil _⟩

/-- The files of a service lie in two directories of its own. -/
theorem dir_of_mem_serviceGroups {root : String} {group : FileGroup}
    (h : group ∈ serviceGroups root) :
    group.dir = root ++ "/src" ∨ group.dir = root ++ "/tests" := by
  simp only [serviceGroups, List.mem_cons, List.not_mem_nil, or_false] at h
  rcases h with rfl | rfl | rfl | rfl | rfl
  iterate 4 exact .inl rfl
  exact .inr rfl

theorem isSound_serviceMesh (category : String) : (serviceMesh category).IsSound where
  groups group hgroup := by
    obtain ⟨root, hroot, hgroup⟩ := List.mem_flatMap.1 hgroup
    exact isSound_serviceGroups hroot group hgroup
  apart := by
    refine List.pairwise_flatMap.2 ⟨fun root _ => isApart_serviceGroups root, ?_⟩
    refine (nodup_serviceRoots category).imp fun {root root'} hne group hgroup group' hgroup' => ?_
    refine .inl fun hdir => ?_
    -- directories with one ending are those of one service, and the endings differ at the last
    -- letter
    have hlast : ∀ {root root' : String}, root ++ "/src" ≠ root' ++ "/tests" := fun h => by
      have hcs := congrArg (fun path => (String.toList path).getLast?) h
      simp at hcs
    rcases dir_of_mem_serviceGroups hgroup with hsrc | htests <;>
      rcases dir_of_mem_serviceGroups hgroup' with hsrc' | htests'
    · exact hne ((String.append_left_inj _).1 (hsrc.symm.trans (hdir.trans hsrc')))
    · exact hlast (hsrc.symm.trans (hdir.trans htests'))
    · exact hlast (hsrc'.symm.trans (hdir.symm.trans htests))
    · exact hne ((String.append_left_inj _).1 (htests.symm.trans (hdir.trans htests')))

/-! ### All layouts -/

/-- The layouts that do not depend on the category. -/
def fixed : List Layout :=
  [webApp, cliTool, library, iosApp, androidApp, game, dataPipeline, enterpriseApp]

/-- What holds of the layouts that are fixed, and of meshes of any size, holds of all. -/
theorem forall_of {P : Layout → Prop} (hfixed : ∀ layout ∈ fixed, P layout)
    (hmesh : ∀ category, P (serviceMesh category)) (archetype : Archetype) (category : String) :
    P (Layout.of archetype category) := by
  cases archetype with
  | serviceMesh => exact hmesh category
  | mobileApp =>
    rw [Layout.of]
    split <;> exact hfixed _ (by simp [fixed])
  | webApp | cliTool | library | game | dataPipeline | enterpriseApp =>
    exact hfixed _ (by simp [Layout.of, fixed])

/-- Every layout names its files once, and away from the artifacts. -/
theorem isSound_of (archetype : Archetype) (category : String) :
    (Layout.of archetype category).IsSound :=
  forall_of (by decide +kernel) isSound_serviceMesh archetype category

end Layout

end CorpusForge
