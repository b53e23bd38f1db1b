import CorpusForge.Proofs.Run.Diary
import CorpusForge.Proofs.Run.Isolation
import CorpusForge.Proofs.Run.Success
import CorpusForge.Proofs.Run.Walk
import CorpusForge.Proofs.Site

/-!
# The files of a run

Repositories are apart, so what is written for one of them is in no other's directory, and a run
that begins with an empty directory leaves in each just the files that were written for it. A run
tells which repositories it has made, and counts the entries of their manifests; that many files are
on the disk.

* `Run.completed`: the repositories that a run has made, at least in part;
* `Interleaving.IsFiled`: what the directories of a run hold;
* `Interleaving.Reachable.isFiled`: wherever a run gets, they hold it;
* `Interleaving.counts_files`: the files that are counted.
-/

namespace CorpusForge

/-! ### Repositories that were made -/

/-- The repository that was made, at least in part. -/
def Event.completed? : Event → Option Repository
  | repositoryCompleted _ repository => some repository
  | _ => none

theorem Job.completed?_ending_eq_some_iff {job : Job} {outcome : Except Failure Repository}
    {repository : Repository} : (job.ending outcome).completed? = some repository ↔
      outcome = .ok repository ∧ repository.status ≠ .failed := by
  cases outcome with
  | error failure => simp [ending, Event.completed?]
  | ok made =>
    rw [ending]
    split
    next hfailed =>
      refine iff_of_false (by simp [Event.completed?]) ?_
      rintro ⟨⟨⟩, hmade⟩
      exact hmade hfailed
    next hmade =>
      rw [Event.completed?, Option.some_inj, Except.ok.injEq]
      exact ⟨by rintro rfl; exact ⟨rfl, hmade⟩, And.left⟩

/-- A job adds the entries of its manifest to the files, when it is told to be completed. -/
theorem Tally.totalFiles_countOutcome (t : Tally) (job : Job)
    (outcome : Except Failure Repository) : (t.countOutcome job outcome).totalFiles =
      t.totalFiles + (((job.ending outcome).completed?.toList).map fun repository =>
        repository.manifest.length).sum := by
  cases outcome with
  | error failure => rfl
  | ok repository =>
    have hnoted : (t.countOutcome job (.ok repository)).totalFiles =
        ({ t with totalCommits := t.totalCommits + repository.commitsApplied }.countStatus
          repository).totalFiles := by
      simp only [Tally.countOutcome, Tally.count]
      split <;> rfl
    rw [hnoted]
    cases hstatus : repository.status <;>
      simp [Tally.countStatus, Job.ending, Event.completed?, hstatus]

namespace Run

variable {σ : Type} {course : Course} {run : Run σ}

/-- The repositories that a run has made, at least in part, in the order in which it was told. -/
def completed (run : Run σ) : List Repository := run.told.filterMap Event.completed?

theorem completed_announce (course : Course) (slot : Slot) (run : Run σ) :
    (run.announce course slot).completed = run.completed := by
  rw [completed, told_announce, List.filterMap_append, announcement]
  split <;> exact List.append_nil _

theorem completed_skip (course : Course) (job : Job) (run : Run σ) :
    (run.skip course job).completed = run.completed := by
  rw [completed, told_skip, List.filterMap_append]
  exact List.append_nil _

theorem completed_launch (course : Course) (job : Job) (run : Run σ) :
    (run.launch course job).completed = run.completed := by
  rw [completed, told_launch, List.filterMap_append, Course.opening]
  split <;> exact List.append_nil _

theorem completed_record (job : Job) (outcome : Except Failure Repository) (run : Run σ) :
    (run.record job outcome).completed =
      run.completed ++ (job.ending outcome).completed?.toList := by
  rw [completed, told_record, List.filterMap_append, ← completed]
  cases hcompleted : (job.ending outcome).completed? <;> simp [hcompleted]

end Run

/-! ### The directory of a job -/

namespace Course

variable {σ : Type} {course : Course} {start n k l : Nat} {slot slot' : Slot}

theorem nodup_take_jobs (hstart : course.config.startIndex.IsCount start)
    (hn : start + n ≤ 2 ^ 53) : (course.jobs.take n).Nodup := by
  refine List.Nodup.of_map Job.index ?_
  rw [List.map_take, map_index_jobs, ← List.map_take, List.take_range]
  refine nodup_map_indexAt hstart hn List.nodup_range fun k hk => ?_
  exact (List.mem_range.1 hk).trans_le (min_le_left _ _)

/-- The work is what is left of a job, and the directory of its repository holds what was asked for
    it. -/
def IsFiled (course : Course) (disk : Disk) (job : Job)
    (work : Work (Except Failure Repository)) : Prop :=
  ∃ t, (course.work job).Leads t work ∧ disk.Holds (Path.segments (course.path job)) t

/-- No request for one slot touches the directory of another. -/
theorem not_touches (hstart : course.config.startIndex.IsCount start)
    (htemplates : ∀ category ∈ course.config.categories, ∀ template ∈ category.templates,
      '/' ∉ template.toList)
    (hslot : Quota.slot? course.config.categories k = some slot)
    (hslot' : Quota.slot? course.config.categories l = some slot') (hk : start + k ≤ 2 ^ 53)
    (hl : start + l ≤ 2 ^ 53) (hne : k ≠ l) {request : Request}
    (hinside : request.IsInside (course.path (course.job l slot'))) (below : List String) :
    ¬request.Touches (Path.segments (course.path (course.job k slot)) ++ below) := by
  intro htouches
  have hle : start ≤ 2 ^ 53 := by omega
  have htemplate := notMem_template htemplates hslot
  have htemplate' := notMem_template htemplates hslot'
  -- both directories are in that of the run, so neither is in the other
  have hlength : (Path.segments (course.path (course.job l slot'))).length =
      (Path.segments (course.path (course.job k slot))).length := by
    rw [segments_path hstart hle htemplate, segments_path hstart hle htemplate',
      List.length_append, List.length_append, List.length_singleton, List.length_singleton]
  have hdown := List.prefix_of_prefix_length_le (hinside.prefix_of_touches htouches).1
    (List.prefix_append _ below) hlength.le
  exact segments_path_ne hstart hle htemplate htemplate' hk hl hne
    (hdown.eq_of_length hlength).symm

namespace IsFiled

variable {host : Host σ} {disk : σ → Disk} {s : Shared σ} {request : Request}

/-- A request of the job is answered. -/
theorem answered (hhost : host.IsOnDisk disk)
    {rest : request.Answer → Work (Except Failure Repository)}
    (h : course.IsFiled (disk s.host) (course.job k slot) (.ask request rest)) :
    course.IsFiled (disk (host.answer request s).2.host) (course.job k slot)
      (rest (host.answer request s).1) := by
  obtain ⟨t, hleads, hholds⟩ := h
  have hinside := (course.asks_isInside k slot).of_leads hleads (host.answer request s).1
  exact ⟨_, hleads.answered _, hhost.holds_answer hholds hinside⟩

/-- A request of another job is answered. -/
theorem spared {work : Work (Except Failure Repository)} (hhost : host.IsOnDisk disk)
    (hstart : course.config.startIndex.IsCount start)
    (htemplates : ∀ category ∈ course.config.categories, ∀ template ∈ category.templates,
      '/' ∉ template.toList)
    (hslot : Quota.slot? course.config.categories k = some slot)
    (hslot' : Quota.slot? course.config.categories l = some slot') (hk : start + k ≤ 2 ^ 53)
    (hl : start + l ≤ 2 ^ 53) (h : course.IsFiled (disk s.host) (course.job k slot) work)
    (hother : course.job l slot' ≠ course.job k slot)
    (hinside : request.IsInside (course.path (course.job l slot'))) :
    course.IsFiled (disk (host.answer request s).2.host) (course.job k slot) work := by
  obtain ⟨t, hleads, hholds⟩ := h
  have hne : k ≠ l := by
    rintro rfl
    obtain rfl := Option.some.inj (hslot.symm.trans hslot')
    exact hother rfl
  exact ⟨t, hleads, hholds.spared (hhost.spares request s) fun below _ =>
    not_touches hstart htemplates hslot hslot' hk hl hne hinside below⟩

/-- The files of a repository that was made are those of its manifest. -/
theorem countFiles {disk : Disk} {repository : Repository}
    (h : course.IsFiled disk (course.job k slot) (.done (.ok repository)))
    (hextensions : ∀ language ∈ course.workshop.languages, ∀ extension ∈ language.extensions,
      '/' ∉ extension.toList)
    (hstatus : repository.status ≠ .failed) :
    disk.countFiles (Path.segments repository.path) repository.path =
      .ok repository.manifest.length := by
  obtain ⟨t, hleads, hholds⟩ := h
  rcases leads_work_done hleads with ⟨refusal, gen, -, -, hrefused⟩ |
    ⟨spec, gen, made, draft, hdraw, hmade, hwork⟩
  · exact nomatch hrefused
  · obtain rfl : repository = made := Except.ok.inj hmade
    have hname : spec.name = (course.job k slot).name :=
      (course.selector.yields_select slot (course.indexAt k) hdraw).name
    rw [hname] at hwork
    have hstored := Repository.isStored_of_leads
      (Structure.notMem_extensionFor hextensions spec.language) hwork hstatus
    rw [hstored.place]
    exact hstored.countFiles hholds _

end IsFiled

end Course

namespace Interleaving

variable {σ : Type} {host : Host σ} {found : String → σ → Bool} {disk : σ → Disk}
  {course : Course} {state : σ} {start : Nat} {i j : Interleaving σ}

/-! ### The directories of a run -/

theorem Reachable.nodup_pending (hi : Reachable host found course state i)
    (hstart : course.config.startIndex.IsCount start) (hnext : start + i.next ≤ 2 ^ 53) :
    i.pending.Nodup := by
  obtain ⟨entries, haccount⟩ := exists_isAccount hi
  have hnodup := haccount.jobs.nodup_iff.2 (Course.nodup_take_jobs hstart hnext)
  exact (List.nodup_append.1 hnodup).2.1

/-- A job that is running is pending once. -/
theorem Reachable.notMem_others {run : Run σ} {next : Nat} {phase : Phase}
    {older younger : List Running} {job : Job} {work : Work (Except Failure Repository)}
    (hi : Reachable host found course state ⟨run, next, phase⟩)
    (hstart : course.config.startIndex.IsCount start) (hnext : start + next ≤ 2 ^ 53)
    (hcons : run.running = older ++ ⟨job, work⟩ :: younger) :
    job ∉ older.map Running.job ++ (younger.map Running.job ++ phase.job?.toList) := by
  have hnodup := hi.nodup_pending hstart hnext
  simp only [pending, hcons, List.map_append, List.map_cons, List.append_assoc,
    List.cons_append] at hnodup
  rw [List.nodup_middle, List.nodup_cons] at hnodup
  exact hnodup.1

/-- What the directories of a run hold: nothing that was not asked for, whether the slot was not
    taken yet, its job has not started, it is in the making, or its repository is completed. -/
structure IsFiled (disk : σ → Disk) (course : Course) (start : Nat) (i : Interleaving σ) :
    Prop where
  fresh : ∀ k slot, i.next ≤ k → start + k ≤ 2 ^ 53 →
    Quota.slot? course.config.categories k = some slot →
    course.IsFiled (disk i.run.host) (course.job k slot) (course.work (course.job k slot))
  taken : ∀ job, i.phase.job? = some job →
    course.IsFiled (disk i.run.host) job (course.work job)
  running : ∀ r ∈ i.run.running, course.IsFiled (disk i.run.host) r.job r.work
  completed : ∀ repository ∈ i.run.completed, repository.status ≠ .failed ∧
    ∃ k slot, k < i.next ∧ Quota.slot? course.config.categories k = some slot ∧
      course.job k slot ∉ i.pending ∧
      course.IsFiled (disk i.run.host) (course.job k slot) (.done (.ok repository))

/-- A run that begins with an empty directory. -/
theorem isFiled_begin (hstart : course.config.startIndex.IsCount start)
    (htemplates : ∀ category ∈ course.config.categories, ∀ template ∈ category.templates,
      '/' ∉ template.toList)
    (htree : (disk state).IsTree)
    (hempty : ∀ name, (disk state).exists? (Path.segments course.outputDir ++ [name]) = false) :
    (begin course state).IsFiled disk course start where
  fresh k slot _ hk hslot := by
    refine ⟨[], .refl _, htree.holds_nil ?_⟩
    rw [Course.segments_path hstart (by omega) (Course.notMem_template htemplates hslot)]
    exact hempty _
  taken := nofun
  running r hr := absurd hr List.not_mem_nil
  completed repository hmem := absurd hmem List.not_mem_nil

/-- A job that is not pending any more stays so. -/
theorem Step.notMem_pending (hstep : Step host found course i j)
    (hi : Reachable host found course state i) (hstart : course.config.startIndex.IsCount start)
    (hnext : start + j.next ≤ 2 ^ 53) {k : Nat} {slot : Slot} (hk : k < i.next)
    (hnot : course.job k slot ∉ i.pending) : course.job k slot ∉ j.pending := by
  cases hstep with
  | work hcons => simpa [pending, hcons] using hnot
  | count hcons =>
    simp only [pending, hcons, Run.record_running, List.map_append, List.map_cons, List.mem_append,
      List.mem_cons] at hnot ⊢
    tauto
  | @take run next taken hslot hopen =>
    simp only [pending, Phase.job?, Run.announce_running, Option.toList_none, Option.toList_some,
      List.append_nil, List.mem_append, List.mem_singleton, not_or] at hk hnext hnot ⊢
    refine ⟨hnot, fun heq => ?_⟩
    -- the slot that is taken has another index
    have hindex := (congrArg Job.index heq).trans hi.nextIndex_eq
    exact hk.ne (Course.eq_of_indexAt_eq hstart (by omega) (by omega) hindex)
  | look =>
    rw [pending, Phase.job?_looked]
    exact hnot
  | skip =>
    simp only [pending, Phase.job?, List.mem_append, not_or] at hnot
    simpa [pending, Phase.job?] using hnot.1
  | start => simpa [pending, Phase.job?] using hnot

/-- A step changes nothing in the directory of a slot whose job is not pending. -/
theorem Step.isFiled (hstep : Step host found course i j) (hhost : host.IsOnDisk disk)
    (hi : Reachable host found course state i) (hstart : course.config.startIndex.IsCount start)
    (htemplates : ∀ category ∈ course.config.categories, ∀ template ∈ category.templates,
      '/' ∉ template.toList)
    (hnext : start + i.next ≤ 2 ^ 53) {k : Nat} {slot : Slot} (hk : start + k ≤ 2 ^ 53)
    (hslot : Quota.slot? course.config.categories k = some slot)
    (hnot : course.job k slot ∉ i.pending) {left : Work (Except Failure Repository)}
    (h : course.IsFiled (disk i.run.host) (course.job k slot) left) :
    course.IsFiled (disk j.run.host) (course.job k slot) left := by
  cases hstep with
  | @work run next phase older younger job request rest hcons =>
    have hasks : Asks ⟨run, next, phase⟩ job request := ⟨rest, by simp [hcons]⟩
    obtain ⟨l, slot', hl, hslot', rfl, hinside⟩ := hi.isInside hasks
    refine h.spared hhost hstart htemplates hslot hslot' hk (by omega) (fun heq => ?_) hinside
    exact hnot (by simp [pending, hcons, heq])
  | count | look | skip => exact h
  | take | start => simpa using h

/-- A request is answered: the other jobs that are pending are those of other slots. -/
theorem IsFiled.work (hhost : host.IsOnDisk disk)
    (hstart : course.config.startIndex.IsCount start)
    (htemplates : ∀ category ∈ course.config.categories, ∀ template ∈ category.templates,
      '/' ∉ template.toList)
    {run : Run σ} {next : Nat} {phase : Phase} {older younger : List Running} {job : Job}
    {request : Request} {rest : request.Answer → Work (Except Failure Repository)}
    (hi : Reachable host found course state ⟨run, next, phase⟩)
    (hcons : run.running = older ++ ⟨job, .ask request rest⟩ :: younger)
    (hnext : start + next ≤ 2 ^ 53) (h : IsFiled disk course start ⟨run, next, phase⟩) :
    (∀ job, phase.job? = some job →
      course.IsFiled (disk (host.answer request run.toShared).2.host) job (course.work job)) ∧
    ∀ r ∈ older ++ ⟨job, rest (host.answer request run.toShared).1⟩ :: younger,
      course.IsFiled (disk (host.answer request run.toShared).2.host) r.job r.work := by
  have honce := hi.notMem_others hstart hnext hcons
  have hslots := hi.exists_slot
  have hasks : Asks ⟨run, next, phase⟩ job request := ⟨rest, by simp [hcons]⟩
  obtain ⟨k, slot, hk, hslot, rfl, hinside⟩ := hi.isInside hasks
  have hrunning := h.running
  simp only [pending, hcons, List.map_append, List.map_cons, List.append_assoc,
    List.cons_append] at hslots
  simp only [hcons, List.forall_mem_append, List.forall_mem_cons] at hrunning ⊢
  obtain ⟨holder, hjob, hyounger⟩ := hrunning
  have hothers : ∀ other ∈ older.map Running.job ++ (younger.map Running.job ++
      phase.job?.toList), ∀ left, course.IsFiled (disk run.host) other left →
      course.IsFiled (disk (host.answer request run.toShared).2.host) other left := by
    intro other hmem left hfiled
    obtain ⟨l, slot', hl, hslot', rfl⟩ := hslots other
      (List.perm_middle.symm.subset (List.mem_cons_of_mem _ hmem))
    have hkle : start + k ≤ 2 ^ 53 := by simp only at hk; omega
    exact hfiled.spared hhost hstart htemplates hslot' hslot (by omega) hkle
      (fun heq => honce (heq ▸ hmem)) hinside
  simp only [List.mem_append] at hothers
  refine ⟨fun other hphase => ?_, fun r hr => ?_, hjob.answered hhost, fun r hr => ?_⟩
  · exact hothers other (.inr (.inr (Option.mem_toList.2 hphase))) _ (h.taken other hphase)
  · exact hothers r.job (.inl (List.mem_map_of_mem hr)) _ (holder r hr)
  · exact hothers r.job (.inr (.inl (List.mem_map_of_mem hr))) _ (hyounger r hr)

/-- The directory of a slot that is still not taken after a step is left as it was. -/
theorem IsFiled.step_fresh (hhost : host.IsOnDisk disk)
    (hstart : course.config.startIndex.IsCount start)
    (htemplates : ∀ category ∈ course.config.categories, ∀ template ∈ category.templates,
      '/' ∉ template.toList)
    (hi : Reachable host found course state i) (h : i.IsFiled disk course start)
    (hstep : Step host found course i j) (hnext : start + j.next ≤ 2 ^ 53) (k : Nat) (slot : Slot)
    (hjk : j.next ≤ k) (hk : start + k ≤ 2 ^ 53)
    (hslot : Quota.slot? course.config.categories k = some slot) :
    course.IsFiled (disk j.run.host) (course.job k slot) (course.work (course.job k slot)) := by
  have hle := hstep.next_le
  refine hstep.isFiled hhost hi hstart htemplates (by omega) hk hslot (fun hmem => ?_)
    (h.fresh k slot (hle.trans hjk) hk hslot)
  -- what is pending was taken before
  obtain ⟨l, slot', hl, -, heq⟩ := hi.exists_slot _ hmem
  have hsame := Course.eq_of_indexAt_eq hstart hk (by omega) (congrArg Job.index heq)
  omega

/-- A repository that was completed before a step is left as it was. -/
theorem IsFiled.step_completed (hhost : host.IsOnDisk disk)
    (hstart : course.config.startIndex.IsCount start)
    (htemplates : ∀ category ∈ course.config.categories, ∀ template ∈ category.templates,
      '/' ∉ template.toList)
    (hi : Reachable host found course state i) (h : i.IsFiled disk course start)
    (hstep : Step host found course i j) (hnext : start + j.next ≤ 2 ^ 53)
    (repository : Repository) (hmem : repository ∈ i.run.completed) :
    repository.status ≠ .failed ∧
      ∃ k slot, k < j.next ∧ Quota.slot? course.config.categories k = some slot ∧
        course.job k slot ∉ j.pending ∧
        course.IsFiled (disk j.run.host) (course.job k slot) (.done (.ok repository)) := by
  have hle := hstep.next_le
  obtain ⟨hstatus, k, slot, hk, hslot, hnot, hfiled⟩ := h.completed repository hmem
  exact ⟨hstatus, k, slot, hk.trans_le hle, hslot,
    hstep.notMem_pending hi hstart hnext hk hnot,
    hstep.isFiled hhost hi hstart htemplates (by omega) (by omega) hslot hnot hfiled⟩

/-- A step keeps what the directories hold. -/
theorem IsFiled.step (hhost : host.IsOnDisk disk)
    (hstart : course.config.startIndex.IsCount start)
    (htemplates : ∀ category ∈ course.config.categories, ∀ template ∈ category.templates,
      '/' ∉ template.toList)
    (hi : Reachable host found course state i) (h : i.IsFiled disk course start)
    (hstep : Step host found course i j) (hnext : start + j.next ≤ 2 ^ 53) :
    j.IsFiled disk course start := by
  have hfresh := h.step_fresh hhost hstart htemplates hi hstep hnext
  have hcompleted := h.step_completed hhost hstart htemplates hi hstep hnext
  have htaken := h.taken
  have hrunning := h.running
  cases hstep with
  | work hcons =>
    obtain ⟨htaken, hrunning⟩ := h.work hhost hstart htemplates hi hcons hnext
    exact ⟨hfresh, htaken, hrunning, hcompleted⟩
  | @count run next phase older younger job outcome hcons =>
    have hmem : ⟨job, .done outcome⟩ ∈ run.running := by simp [hcons]
    have hjob := hrunning _ hmem
    refine ⟨hfresh, htaken, fun r hr => hrunning r ?_, fun repository hrepository => ?_⟩
    · simp only [hcons, Run.record_running, List.mem_append, List.mem_cons] at hr ⊢
      tauto
    · rw [Run.completed_record, List.mem_append, Option.mem_toList,
        Job.completed?_ending_eq_some_iff] at hrepository
      rcases hrepository with hold | ⟨rfl, hstatus⟩
      · exact hcompleted repository hold
      · obtain ⟨k, slot, hk, hslot, rfl⟩ := hi.exists_slot job (mem_pending hmem)
        have honce := hi.notMem_others hstart hnext hcons
        exact ⟨hstatus, k, slot, hk, hslot, by simpa [pending] using honce, hjob⟩
  | @take run next slot hslot hopen =>
    simp only at hnext
    refine ⟨hfresh, fun job hphase => ?_, by simpa using hrunning, ?_⟩
    · -- the job is that of the slot, and nothing was asked for it
      obtain rfl : course.job next slot = job := by
        refine Eq.trans ?_ (Option.some.inj hphase)
        rw [Run.nextJob, hi.nextIndex_eq]
        rfl
      simpa using h.fresh next slot le_rfl (by omega) hslot
    · simpa only [Run.completed_announce] using hcompleted
  | @look run next job =>
    refine ⟨hfresh, fun looked hphase => ?_, hrunning, hcompleted⟩
    rw [Phase.job?_looked] at hphase
    exact htaken looked hphase
  | skip =>
    exact ⟨hfresh, by simp [Phase.job?], hrunning,
      by simpa only [Run.completed_skip] using hcompleted⟩
  | @start run next job hplace =>
    refine ⟨hfresh, by simp [Phase.job?], ?_,
      by simpa only [Run.completed_launch] using hcompleted⟩
    simp only [Run.launch_running, Run.launch_toShared, List.forall_mem_append,
      List.forall_mem_singleton]
    exact ⟨hrunning, htaken job rfl⟩

/-- Wherever a run gets that began with an empty directory, its directories hold what was asked for
    its repositories. -/
theorem Reachable.isFiled (hhost : host.IsOnDisk disk)
    (hstart : course.config.startIndex.IsCount start)
    (htemplates : ∀ category ∈ course.config.categories, ∀ template ∈ category.templates,
      '/' ∉ template.toList)
    (htree : (disk state).IsTree)
    (hempty : ∀ name, (disk state).exists? (Path.segments course.outputDir ++ [name]) = false)
    (hi : Reachable host found course state i) (hnext : start + i.next ≤ 2 ^ 53) :
    i.IsFiled disk course start := by
  induction hi with
  | begin => exact isFiled_begin hstart htemplates htree hempty
  | step hi hstep ih =>
    exact (ih (by have := hstep.next_le; omega)).step hhost hstart htemplates hi hstep hnext

/-! ### The files that are counted -/

/-- The files of a run are the entries of the manifests of the repositories that it has made. -/
theorem Reachable.totalFiles_eq (hi : Reachable host found course state i) :
    i.run.tally.totalFiles =
      (i.run.completed.map fun repository => repository.manifest.length).sum := by
  induction hi with
  | begin => rfl
  | step hi hstep ih =>
    cases hstep with
    | work | look => exact ih
    | count =>
      rw [Run.completed_record, List.map_append, List.sum_append, Run.record_tally,
        Tally.totalFiles_countOutcome]
      exact congrArg (· + _) ih
    | take => rwa [Run.announce_tally, Run.completed_announce]
    | skip => rwa [Run.skip_tally, Run.completed_skip]
    | start => rwa [Run.launch_tally, Run.completed_launch]

/-- The files of a run are those on the disk, in the directories of the repositories that it has
    made. -/
theorem IsFiled.exists_counts (hi : Reachable host found course state i)
    (hextensions : ∀ language ∈ course.workshop.languages, ∀ extension ∈ language.extensions,
      '/' ∉ extension.toList)
    (h : i.IsFiled disk course start) :
    ∃ counts : List Nat, List.Forall₂ (fun repository count =>
        (disk i.run.host).countFiles (Path.segments repository.path) repository.path = .ok count)
      i.run.completed counts ∧ i.run.tally.totalFiles = counts.sum := by
  refine ⟨_, ?_, hi.totalFiles_eq⟩
  rw [List.forall₂_map_right_iff, List.forall₂_same]
  intro repository hmem
  obtain ⟨hstatus, k, slot, -, -, -, hfiled⟩ := h.completed repository hmem
  exact hfiled.countFiles hextensions hstatus

/-- The files that are counted, on a host whose files are on a disk. In the directory of a
    repository that was made where nothing was, and did not fail, there are as many as its manifest
    has entries. And wherever a run gets that began with an empty directory, as long as numbers are
    exact, the total of its summary is the sum of those of the repositories that it has made. -/
theorem counts_files (hhost : host.IsOnDisk disk) :
    (∀ shop spec path bench, (∀ language ∈ shop.languages, ∀ extension ∈ language.extensions,
        '/' ∉ extension.toList) →
      (disk bench.host).IsTree → (disk bench.host).exists? (Path.segments path) = false →
      (Repository.make host shop spec path bench).1.status ≠ .failed →
      (disk (Repository.make host shop spec path bench).2.host).countFiles
          (Path.segments path) path =
        .ok (Repository.make host shop spec path bench).1.manifest.length) ∧
    ∀ {config : Config}, config.IsAccepted →
      (∀ category ∈ config.categories, ∀ template ∈ category.templates, '/' ∉ template.toList) →
      (∀ language ∈ config.languages, ∀ extension ∈ language.extensions, '/' ∉ extension.toList) →
      ∀ (seed cwd : String) (now : Timestamp) (shelf : Shelf),
        ∃ course, Course.of config seed cwd now shelf = .ok course ∧
          ∃ start : Nat, config.startIndex.IsCount start ∧
            ∀ (found : String → σ → Bool) (state : σ), (disk state).IsTree →
              (∀ name, (disk state).exists? (Path.segments course.outputDir ++ [name]) = false) →
              ∀ i, Reachable host found course state i → start + i.next ≤ 2 ^ 53 →
                ∃ counts : List Nat, List.Forall₂ (fun repository count =>
                    (disk i.run.host).countFiles (Path.segments repository.path)
                      repository.path = .ok count) i.run.completed counts ∧
                  (i.run.summary course).tally.totalFiles = counts.sum := by
  refine ⟨fun shop spec path bench hextensions htree hnew hstatus => ?_,
    fun {config} hconfig htemplates hextensions seed cwd now shelf => ?_⟩
  · exact Repository.countFiles_make hhost
      (Structure.notMem_extensionFor hextensions spec.language) htree hnew hstatus
  · obtain ⟨course, hcourse⟩ := Course.exists_of_isAccepted hconfig seed cwd now shelf
    obtain ⟨start, -, hstart⟩ := hconfig.startIndex
    rw [← Course.languages_of hcourse] at hextensions
    obtain rfl := Course.config_of hcourse
    refine ⟨course, hcourse, start, hstart, fun found state htree hempty i hi hnext => ?_⟩
    exact (hi.isFiled hhost hstart htemplates htree hempty hnext).exists_counts hi hextensions

/-- On a disk that takes everything, with the default tables: a game by itself, and a run with four
    repositories in the making at a time. -/
theorem counts_files_four :
    let found := fun path (disk : Disk) => disk.exists? (Path.segments path)
    let spec : Spec := ⟨5001, "repo-05001-arcade", "games", some "arcade", "go", 1000, 100,
      [⟨"Ada", "ada@example.org"⟩]⟩
    let bench : Bench Disk := ⟨.ofText "seed:5001", [], 0, .empty⟩
    ∃ config course i, Config.load [] (.object [("concurrency", .number 4)]) = .ok config ∧
      Course.of config "seed" "/" (some 0) .bundled = .ok course ∧
      (Repository.make Host.storing (config.workshop (some 0)) spec "/corpus/game"
        bench).1.status = .success ∧
      (Repository.make Host.storing (config.workshop (some 0)) spec "/corpus/game"
          bench).2.host.countFiles (Path.segments "/corpus/game") "/corpus/game" =
        .ok (Repository.make Host.storing (config.workshop (some 0)) spec "/corpus/game"
          bench).1.manifest.length ∧
      Reachable Host.storing found course .empty i ∧ i.IsOver course ∧
      ∃ counts : List Nat, List.Forall₂ (fun repository count =>
          i.run.host.countFiles (Path.segments repository.path) repository.path = .ok count)
        i.run.completed counts ∧ (i.run.summary course).tally.totalFiles = counts.sum := by
  intro found spec bench
  obtain ⟨config, hload, hlanguages, hcontributors, hcategories, hindex, htarget⟩ : ∃ config,
      Config.load [] (.object [("concurrency", .number 4)]) = .ok config ∧
        config.languages = Corpus.bundledLanguages ∧
        config.contributors = Corpus.bundledContributors ∧
        config.categories = Corpus.bundledCategories ∧ config.startIndex = .real (5001 : Nat) ∧
        config.targetCount = .real (1000 : Nat) := ⟨_, rfl, rfl, rfl, rfl, rfl, rfl⟩
  have hconfig : config.IsAccepted := ⟨_, _, hload⟩
  have hfit := Config.isFit_of_bundled hlanguages hcontributors
  have htemplates : ∀ category ∈ Corpus.bundledCategories, ∀ template ∈ category.templates,
      '/' ∉ template.toList := by decide +kernel
  have hextensions : ∀ language ∈ config.languages, ∀ extension ∈ language.extensions,
      '/' ∉ extension.toList := by
    rw [hlanguages]
    decide +kernel
  have hopen : Host.storing.IsOpen := ⟨fun _ _ => rfl, fun _ _ _ => rfl, fun _ _ _ => rfl⟩
  obtain ⟨hmade, hruns⟩ := counts_files Host.isOnDisk_storing
  -- the game by itself
  have hspec : spec.IsWorkable (config.workshop (some 0)).languages :=
    ⟨⟨_, rfl⟩, by decide, List.cons_ne_nil _ _, Structure.notMem_extensionFor hextensions _⟩
  have hgame : Repository.IsComplete (config.workshop (some 0)) spec bench.gen
      (Repository.make Host.storing (config.workshop (some 0)) spec "/corpus/game" bench).1 :=
    Repository.make_of_isOpen hopen rfl hconfig.timeline hspec _ (Artifact.holds_nil .bundled)
  have hcount := hmade (config.workshop (some 0)) spec "/corpus/game" bench hextensions
    Disk.isTree_empty (Disk.exists?_empty (by decide)) (by rw [hgame.status]; decide)
  -- the run takes no more slots than it is to make repositories
  obtain ⟨course, hcourse, start, hstart, hrun⟩ :=
    hruns hconfig (hcategories ▸ htemplates) hextensions "seed" "/" (some 0) .bundled
  rw [hindex] at hstart
  obtain rfl := hstart.unique (Number.isCount_real 5001)
  have hsame := Course.config_of hcourse
  have hplace : course.config.concurrency.lt 1 = false := hsame ▸ hconfig.place
  obtain ⟨i, hi, hover, -⟩ := @isRun_generate _ Host.storing found course .empty hplace
  obtain ⟨hfailed, -, -⟩ := hi.failed_eq_zero hconfig hfit hcourse hopen
  have hnext := hi.next_le_min (hsame ▸ htarget) hfailed
  have hcounts := hrun found .empty Disk.isTree_empty
    (fun _ => Disk.exists?_empty (List.concat_ne_nil _ _)) i hi (by omega)
  exact ⟨config, course, i, hload, hcourse, hgame.status, hcount, hi, hover, hcounts⟩

end Interleaving

end CorpusForge
