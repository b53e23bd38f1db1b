import CorpusForge.Proofs.Repository.Isolation
import CorpusForge.Proofs.Run.Conservation
import CorpusForge.Proofs.Run.Lasting
import CorpusForge.Proofs.Spec

/-!
# Repositories are apart

The name of a repository tells its index, and it is the name of a directory as long as its template
has no slash in it. So the repositories of a run have directories of their own, side by side, and
whatever is asked for one of them, in whatever order the jobs are worked on, is in its directory.

A template with a slash is accepted as well. Its repository may be anywhere, and two slots may have
one directory.

* `Course.segments_path`: where the repository of a slot is;
* `Course.segments_path_ne`: the repositories of two slots;
* `Interleaving.keeps_apart`: what a run asks for.
-/

namespace CorpusForge

/-! ### Directories -/

namespace Course

variable {course : Course} {start k l : Nat} {slot slot' : Slot}

/-- The template of a slot is one of the configuration. -/
theorem notMem_template (htemplates : ∀ category ∈ course.config.categories,
      ∀ template ∈ category.templates, '/' ∉ template.toList)
    (hslot : Quota.slot? course.config.categories k = some slot) :
    '/' ∉ (slot.template.getD "undefined").toList := by
  obtain ⟨category, hcategory, ordinal, rfl⟩ := Quota.exists_category hslot
  rw [Category.slot]
  cases htemplate : category.templates[ordinal % category.templates.length]? with
  | none =>
    have hundefined : '/' ∉ "undefined".toList := by decide
    exact hundefined
  | some template =>
    exact htemplates category hcategory template (List.mem_of_getElem? htemplate)

/-- All indexes are whole numbers, up to the last one that can be counted to. -/
theorem isCount_indexAt_min (hstart : course.config.startIndex.IsCount start)
    (hle : start ≤ 2 ^ 53) (k : Nat) : (course.indexAt k).IsCount (min (start + k) (2 ^ 53)) :=
  hstart.iterate_next_min hle k

/-- The repository of a slot is in the directory of the run. -/
theorem segments_path (hstart : course.config.startIndex.IsCount start) (hle : start ≤ 2 ^ 53)
    (htemplate : '/' ∉ (slot.template.getD "undefined").toList) :
    Path.segments (course.path (course.job k slot)) =
      Path.segments course.outputDir ++ [(course.job k slot).name] := by
  obtain ⟨hslash, hplain⟩ :=
    isPlain_repositoryName (isCount_indexAt_min hstart hle k) (min_le_right _ _) htemplate
  have hname : (course.job k slot).name = repositoryName (course.indexAt k) slot.template := rfl
  rw [path, hname, Path.segments_join _ (Path.isWay_of_isPlain hplain) (Text.splitAt_ne_nil _ _),
    Text.splitAt_of_notMem hslash, List.map_singleton, String.ofList_toList]

/-- The repositories of different slots are in different directories. -/
theorem segments_path_ne (hstart : course.config.startIndex.IsCount start) (hle : start ≤ 2 ^ 53)
    (htemplate : '/' ∉ (slot.template.getD "undefined").toList)
    (htemplate' : '/' ∉ (slot'.template.getD "undefined").toList) (hk : start + k ≤ 2 ^ 53)
    (hl : start + l ≤ 2 ^ 53) (hne : k ≠ l) :
    Path.segments (course.path (course.job k slot)) ≠
      Path.segments (course.path (course.job l slot')) := by
  intro h
  rw [segments_path hstart hle htemplate, segments_path hstart hle htemplate'] at h
  have hname := (List.cons.inj (List.append_cancel_left h)).1
  have hsame := eq_of_repositoryName_eq (isCount_indexAt hstart hk) (isCount_indexAt hstart hl)
    hk hl hname
  omega

/-- All that the work of a slot asks for is in the directory of its repository. -/
theorem asks_isInside (course : Course) (k : Nat) (slot : Slot) :
    (course.work (course.job k slot)).Asks
      (Request.IsInside (course.path (course.job k slot))) := by
  rw [work]
  split
  next => exact Work.asks_done _
  next spec gen hdraw =>
    have hname : spec.name = (course.job k slot).name :=
      (course.selector.yields_select slot (course.indexAt k) hdraw).name
    rw [hname]
    exact (Repository.asks_isInside _ _ _ _).bind fun _ => Work.asks_done _

end Course

namespace Interleaving

variable {σ : Type} {host : Host σ} {found : String → σ → Bool} {course : Course} {state : σ}
  {i : Interleaving σ}

/-- The request is the next one of a job in the making. -/
def Asks (i : Interleaving σ) (job : Job) (request : Request) : Prop :=
  ∃ rest, ⟨job, .ask request rest⟩ ∈ i.run.running

/-- What a run asks for is for the repository of a slot, and in its directory. -/
theorem Reachable.isInside (hi : Reachable host found course state i) {job : Job}
    {request : Request} (hasks : i.Asks job request) :
    ∃ k slot, k < i.next ∧ Quota.slot? course.config.categories k = some slot ∧
      job = course.job k slot ∧ request.IsInside (course.path job) := by
  obtain ⟨rest, hmem⟩ := hasks
  obtain ⟨k, slot, hk, hslot, rfl⟩ := hi.exists_slot job (mem_pending hmem)
  obtain ⟨t, hwork, -⟩ := hi.answered.2 _ hmem
  refine ⟨k, slot, hk, hslot, rfl, ?_⟩
  exact (course.asks_isInside k slot).of_leads hwork (host.answer request i.run.toShared).1

/-- Repositories are apart. With an accepted configuration whose templates have no slashes in them,
    the repository of every slot has a directory of its own in the directory of the run; and at
    every moment, whatever is found and refused and in whatever order, what is asked for is for the
    repository of a slot, and in its directory. -/
theorem keeps_apart {config : Config} (hconfig : config.IsAccepted)
    (htemplates : ∀ category ∈ config.categories, ∀ template ∈ category.templates,
      '/' ∉ template.toList)
    (seed cwd : String) (now : Timestamp) (shelf : Shelf) :
    ∃ course, Course.of config seed cwd now shelf = .ok course ∧
      ∃ start : Nat, config.startIndex.IsCount start ∧
        (∀ k slot, Quota.slot? config.categories k = some slot →
          Path.segments (course.path (course.job k slot)) =
            Path.segments course.outputDir ++ [(course.job k slot).name]) ∧
        (∀ k l slot slot', Quota.slot? config.categories k = some slot →
          Quota.slot? config.categories l = some slot' → k ≠ l →
          start + k ≤ 2 ^ 53 → start + l ≤ 2 ^ 53 →
          Path.segments (course.path (course.job k slot)) ≠
            Path.segments (course.path (course.job l slot'))) ∧
        ∀ {σ : Type} (host : Host σ) (found : String → σ → Bool) (state : σ) (i : Interleaving σ),
          Reachable host found course state i → ∀ job request, i.Asks job request →
            ∃ k slot, k < i.next ∧ Quota.slot? config.categories k = some slot ∧
              job = course.job k slot ∧ request.IsInside (course.path job) := by
  obtain ⟨course, hcourse⟩ := Course.exists_of_isAccepted hconfig seed cwd now shelf
  obtain ⟨start, hmost, hstart⟩ := hconfig.startIndex
  obtain rfl := Course.config_of hcourse
  have hle : start ≤ 2 ^ 53 := by omega
  refine ⟨course, hcourse, start, hstart, fun k slot hslot => ?_,
    fun k l slot slot' hslot hslot' hne hk hl => ?_,
    fun host found state i hi job request hasks => hi.isInside hasks⟩
  · exact Course.segments_path hstart hle (Course.notMem_template htemplates hslot)
  · exact Course.segments_path_ne hstart hle (Course.notMem_template htemplates hslot)
      (Course.notMem_template htemplates hslot') hk hl hne

/-- The default tables, with four repositories in the making at a time. -/
theorem keeps_apart_four :
    ∃ config course slot slot', Config.load [] (.object [("concurrency", .number 4)]) = .ok config ∧
      Course.of config "seed" "/" (some 0) .bundled = .ok course ∧
      Quota.slot? config.categories 0 = some slot ∧ Quota.slot? config.categories 1 = some slot' ∧
      Path.segments (course.path (course.job 0 slot)) =
        Path.segments course.outputDir ++ [(course.job 0 slot).name] ∧
      Path.segments (course.path (course.job 0 slot)) ≠
        Path.segments (course.path (course.job 1 slot')) := by
  obtain ⟨config, hload, hcategories, hindex⟩ : ∃ config,
      Config.load [] (.object [("concurrency", .number 4)]) = .ok config ∧
        config.categories = Corpus.bundledCategories ∧ config.startIndex = .real (5001 : Nat) :=
    ⟨_, rfl, rfl, rfl⟩
  have htemplates : ∀ category ∈ Corpus.bundledCategories, ∀ template ∈ category.templates,
      '/' ∉ template.toList := by decide +kernel
  obtain ⟨slot, hslot⟩ : ∃ slot, Quota.slot? config.categories 0 = some slot := by
    rw [hcategories]
    exact ⟨_, rfl⟩
  obtain ⟨slot', hslot'⟩ : ∃ slot', Quota.slot? config.categories 1 = some slot' := by
    rw [hcategories]
    exact ⟨_, rfl⟩
  obtain ⟨course, hcourse, start, hstart, hchild, hapart, -⟩ :=
    keeps_apart ⟨_, _, hload⟩ (hcategories ▸ htemplates) "seed" "/" (some 0) .bundled
  rw [hindex] at hstart
  obtain rfl := hstart.unique (Number.isCount_real 5001)
  exact ⟨config, course, slot, slot', hload, hcourse, hslot, hslot', hchild 0 slot hslot,
    hapart 0 1 slot slot' hslot hslot' Nat.zero_ne_one (by norm_num) (by norm_num)⟩

/-- A template that leads up: its two repositories have one directory, beside that of the run. -/
theorem shares_directory_upward :
    let category : Value := .object [("name", .string "web_apps"), ("count", .number 2),
      ("templates", .array [.string "app/../../shared"])]
    ∃ config course slot slot',
      Config.load [] (.object [("categories", .array [category])]) = .ok config ∧
      Course.of config "seed" "/" (some 0) .bundled = .ok course ∧
      Quota.slot? config.categories 0 = some slot ∧ Quota.slot? config.categories 1 = some slot' ∧
      Path.segments course.outputDir = ["corpus"] ∧
      Path.segments (course.path (course.job 0 slot)) = ["shared"] ∧
      Path.segments (course.path (course.job 1 slot')) = ["shared"] := by
  intro category
  obtain ⟨config, hload, hdir, hstart, hcategories⟩ : ∃ config,
      Config.load [] (.object [("categories", .array [category])]) = .ok config ∧
        config.outputDir = "./corpus" ∧ config.startIndex = .real (5001 : Nat) ∧
        config.categories = [⟨"web_apps", 2, ["app/../../shared"]⟩] :=
    ⟨_, rfl, rfl, rfl, rfl⟩
  obtain ⟨course, hcourse⟩ := Course.exists_of_isAccepted ⟨_, _, hload⟩ "seed" "/" (some 0) .bundled
  have hslots : ∀ k < 2, Quota.slot? config.categories k =
      some ⟨"web_apps", some "app/../../shared", k⟩ := by
    rw [hcategories]
    decide +kernel
  have hout : course.outputDir = "/corpus" := by
    rw [Course.outputDir_of hcourse, hdir]
    decide +kernel
  have hpath : ∀ k < 2, Path.segments (course.path (course.job k
      ⟨"web_apps", some "app/../../shared", k⟩)) = ["shared"] := by
    simp only [Course.path, Course.job, Course.indexAt, hout, Course.config_of hcourse, hstart]
    decide +kernel
  refine ⟨config, course, _, _, hload, hcourse, hslots 0 (by norm_num), hslots 1 (by norm_num),
    ?_, hpath 0 (by norm_num), hpath 1 (by norm_num)⟩
  rw [hout]
  decide +kernel

end Interleaving

end CorpusForge
