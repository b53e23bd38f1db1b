import CorpusForge.Proofs.Run.Lasting
import CorpusForge.Proofs.Run.Success

/-!
# Resumed runs

A run that keeps what it finds goes on where an earlier run has stopped. When no slot of the earlier
run has failed there is nothing left to do: the later run takes the same slots, keeps all their
directories, and asks nothing, so that everything stays as it is.

* `Course.IsStocked`: the directories of the first slots are there;
* `Interleaving.Reachable.isIdle`: with all of them there, a run asks nothing;
* `Interleaving.resumes_idle`: so it is after a run without failures.
-/

namespace CorpusForge

/-- The directories of the first `n` slots are there. -/
def Course.IsStocked (course : Course) (there : String → Bool) (n : Nat) : Prop :=
  ∀ k < n, ∀ slot, Quota.slot? course.config.categories k = some slot →
    there (course.path (course.job k slot)) = true

/-- Courses with the same configuration and directory have the same slots and directories. -/
theorem Course.IsStocked.of_same {course course' : Course} {there there' : String → Bool} {n : Nat}
    (h : course.IsStocked there n) (hconfig : course'.config = course.config)
    (hdir : course'.outputDir = course.outputDir)
    (hthere : ∀ path, there' path = there path) : course'.IsStocked there' n := by
  intro k hk slot hslot
  rw [hconfig] at hslot
  have hpath : course'.path (course'.job k slot) = course.path (course.job k slot) := by
    simp only [path, job, indexAt, hconfig, hdir]
  rw [hpath, hthere]
  exact h k hk slot hslot

namespace Interleaving

variable {σ : Type} {host : Host σ} {found : String → σ → Bool} {course : Course} {state : σ}
  {i : Interleaving σ} {target : Nat}

/-! ### With all directories there -/

/-- Nothing is in the making, everything is as it was, and slots were skipped only. -/
structure IsIdle (state : σ) (i : Interleaving σ) : Prop where
  running : i.run.running = []
  toShared : i.run.toShared = { host := state }
  phase : ∀ job, i.phase ≠ .waiting job
  tally : ∃ index n, i.run.tally = { nextIndex := index, skipped := n }

/-- A run that keeps what it finds is idle when it finds the directories of all slots that it
    takes. -/
theorem Reachable.isIdle (htarget : course.config.targetCount = .real target)
    (hskip : course.config.skipExisting = true)
    (hstocked : course.IsStocked (fun path => found path state)
      (min target (Quota.size course.config.categories)))
    (hi : Reachable host found course state i) : i.IsIdle state := by
  induction hi with
  | begin => exact ⟨rfl, rfl, fun _ h => Phase.noConfusion h, course.config.startIndex, 0, rfl⟩
  | @step i j hi hstep ih =>
    obtain ⟨hrunning, hshared, hphase, index, n, htally⟩ := ih
    cases hstep with
    | work hcons | count hcons => exact absurd (hcons.symm.trans hrunning) (by simp)
    | @take run next slot hslot hopen =>
      refine ⟨by simpa using hrunning, by simpa using hshared, fun _ h => Phase.noConfusion h,
        index.next, n, ?_⟩
      simp only at htally
      rw [Run.announce_tally, htally]
    | @look run next job =>
      have hfailed : run.tally.failed = 0 := congrArg Tally.failed htally
      have hpending : job ∈ pending ⟨run, next, .looking job⟩ := by simp [pending, Phase.job?]
      obtain ⟨k, slot, hk, hslot, rfl⟩ := hi.exists_slot job hpending
      -- nothing has failed, so the slot is one of those whose directories are there
      have hthere := hstocked k (hk.trans_le (hi.next_le_min htarget hfailed)) slot hslot
      have hkept : run.isKept found course (course.job k slot) = true := by
        have hhost : run.host = state := congrArg Shared.host hshared
        rw [Run.isKept, hskip, hhost]
        exact hthere
      exact ⟨hrunning, hshared, by simp [hkept], index, n, htally⟩
    | @skip run next job =>
      refine ⟨by simpa using hrunning, by simpa using hshared, fun _ h => Phase.noConfusion h,
        index, n + 1, ?_⟩
      simp only at htally
      rw [Run.skip_tally, htally]
    | @start run next job hplace => exact absurd rfl (hphase job)

/-- Such a run is over when it has kept as many repositories as it was to make, or those of all
    slots. -/
theorem IsOver.tally_of_isStocked (htarget : course.config.targetCount = .real target)
    (hskip : course.config.skipExisting = true)
    (hstocked : course.IsStocked (fun path => found path state)
      (min target (Quota.size course.config.categories)))
    (hi : Reachable host found course state i) (hover : i.IsOver course) :
    i.next = min target (Quota.size course.config.categories) ∧
      i.run.tally = { nextIndex := course.indexAt i.next, skipped := i.next } := by
  obtain ⟨-, -, -, index, n, htally⟩ := hi.isIdle htarget hskip hstocked
  have hfailed : i.run.tally.failed = 0 := congrArg Tally.failed htally
  obtain ⟨entries, haccount⟩ := exists_isAccount hi
  have hindex : index = course.indexAt i.next :=
    congrArg Tally.nextIndex (htally.symm.trans haccount.tally)
  have hn : n = i.next := by
    have hsum := hover.produced_add_failed hi
    rw [htally] at hsum
    simpa [Tally.produced] using hsum
  refine ⟨hover.next_eq_min htarget hi hfailed, ?_⟩
  rw [htally, hindex, hn]

/-! ### After another run -/

/-- When a run on a lasting host is over and every slot got as far as its directory, the directories
    of all slots that it took are there. -/
theorem IsOver.isStocked (hover : i.IsOver course) {entries : List (Job × Fate)}
    (haccount : i.IsAccount course entries)
    (hthere : ∀ entry ∈ entries, found (course.path entry.1) i.run.host = true) :
    course.IsStocked (fun path => found path i.run.host) i.next := by
  intro k hk slot hslot
  have hjob : course.job k slot ∈ course.jobs.take i.next :=
    List.mem_of_getElem? ((List.getElem?_take_of_lt hk).trans (Course.getElem?_jobs hslot))
  have hcounted := haccount.jobs.mem_iff.2 hjob
  rw [hover.pending_eq_nil, List.append_nil] at hcounted
  obtain ⟨entry, hentry, heq⟩ := List.mem_map.1 hcounted
  rw [← heq]
  exact hthere entry hentry

/-- When no slot has failed, every entry of the account counts. -/
theorem IsAccount.counts {entries : List (Job × Fate)} (haccount : i.IsAccount course entries)
    (hfailed : i.run.tally.failed = 0) : ∀ entry ∈ entries, entry.2.counts = true := by
  have hsum := Tally.produced_add_failed_ofEntries entries
  rw [haccount.tally] at hfailed
  have hall : entries.countP (fun entry => entry.2.counts) = entries.length := by
    rw [← Tally.produced_ofEntries, ← hsum]
    exact (Nat.add_eq_left.2 hfailed).symm
  exact List.countP_eq_length.1 hall

variable {config : Config} {seed cwd : String} {now : Timestamp} {shelf : Shelf}

/-- When the directories of all slots that it is to take are there, a later run is idle, and ends
    when it has kept them. -/
theorem exists_idle (hconfig : config.IsAccepted) (hskip : config.skipExisting = true)
    (htarget : config.targetCount = .real target)
    (hcourse : Course.of config seed cwd now shelf = .ok course) {there : String → Bool}
    (hstocked : course.IsStocked there (min target (Quota.size config.categories)))
    (seed' : String) (now' : Timestamp) (shelf' : Shelf) :
    ∃ course', Course.of config seed' cwd now' shelf' = .ok course' ∧
      ∀ {τ : Type} (host' : Host τ) (found' : String → τ → Bool) (state' : τ),
        (∀ path, found' path state' = there path) →
        (∀ j, Reachable host' found' course' state' j → j.IsIdle state') ∧
        ∀ {P : Interleaving τ → Prop},
          (∀ j, j.next = min target (Quota.size config.categories) →
            j.run.tally = { nextIndex := course.indexAt j.next, skipped := j.next } → P j) →
          Ends host' found' course' P (begin course' state') := by
  obtain ⟨course', hcourse'⟩ := Course.exists_of_isAccepted hconfig seed' cwd now' shelf'
  have hsame := Course.config_of hcourse
  have hsame' := Course.config_of hcourse'
  refine ⟨course', hcourse', fun {τ} host' found' state' hthere => ?_⟩
  have hstocked' : course'.IsStocked (fun path => found' path state')
      (min target (Quota.size course'.config.categories)) := by
    rw [hsame']
    refine hstocked.of_same (hsame'.trans hsame.symm) ?_ hthere
    rw [Course.outputDir_of hcourse, Course.outputDir_of hcourse']
  have htarget' : course'.config.targetCount = .real target := hsame' ▸ htarget
  have hskip' : course'.config.skipExisting = true := hsame' ▸ hskip
  have hplace' : course'.config.concurrency.lt 1 = false := hsame' ▸ hconfig.place
  refine ⟨fun j hj => hj.isIdle htarget' hskip' hstocked', fun hP =>
    ends_of_reachable hplace' (fun j hj hover => ?_) .begin⟩
  obtain ⟨hnext, htally⟩ := hover.tally_of_isStocked htarget' hskip' hstocked' hj
  rw [hsame'] at hnext
  rw [Course.indexAt, hsame', ← hsame, ← Course.indexAt] at htally
  exact hP j hnext htally

/-- A run after a run without failures. Let a run with an accepted configuration that keeps what it
    finds be over, on a lasting host, and let no slot have failed. Then a further run that finds
    what is there has nothing in the making at any moment and asks nothing, so that all stays as it
    is, whatever the host, the seed, the time and the templates are now. It ends when it has taken
    the same slots, and it has skipped as many as the first run has made or skipped. -/
theorem resumes_idle (hconfig : config.IsAccepted) (hskip : config.skipExisting = true)
    (hcourse : Course.of config seed cwd now shelf = .ok course) (hlasting : host.IsLasting found)
    (hi : Reachable host found course state i) (hover : i.IsOver course)
    (hfailed : i.run.tally.failed = 0) (seed' : String) (now' : Timestamp) (shelf' : Shelf) :
    ∃ course', Course.of config seed' cwd now' shelf' = .ok course' ∧
      ∀ {τ : Type} (host' : Host τ) (found' : String → τ → Bool) (state' : τ),
        (∀ path, found' path state' = found path i.run.host) →
        (∀ j, Reachable host' found' course' state' j →
          j.run.running = [] ∧ j.run.toShared = { host := state' }) ∧
        Ends host' found' course'
          (fun j => j.next = i.next ∧ j.run.tally =
            { nextIndex := i.run.tally.nextIndex
              skipped := i.run.tally.generated + i.run.tally.partly + i.run.tally.skipped })
          (begin course' state') := by
  obtain ⟨target, -, htarget⟩ := hconfig.targetCount
  have hsame := Course.config_of hcourse
  obtain ⟨entries, haccount, hentries⟩ :=
    exists_laid_account hlasting (Course.isRooted_of hcourse) hi
  have hstocked := hover.isStocked haccount fun entry hentry =>
    (hentries entry hentry).2 (Fate.isLaid_of_counts (haccount.counts hfailed entry hentry))
  have hnext : i.next = min target (Quota.size config.categories) := by
    rw [hover.next_eq_min (hsame ▸ htarget) hi hfailed, hsame]
  rw [hnext] at hstocked
  obtain ⟨course', hcourse', hidle⟩ :=
    exists_idle hconfig hskip htarget hcourse hstocked seed' now' shelf'
  refine ⟨course', hcourse', fun {τ} host' found' state' hfound => ?_⟩
  obtain ⟨hall, hends⟩ := hidle host' found' state' hfound
  refine ⟨fun j hj => ⟨(hall j hj).running, (hall j hj).toShared⟩, hends fun j hjnext hjtally => ?_⟩
  have hjsame : j.next = i.next := hjnext.trans hnext.symm
  have hindex : i.run.tally.nextIndex = course.indexAt i.next := congrArg Tally.nextIndex
    haccount.tally
  have hsum : i.run.tally.generated + i.run.tally.partly + i.run.tally.skipped = i.next := by
    rw [← hover.produced_add_failed hi, hfailed]
    rfl
  rw [hjtally, hjsame, hindex, hsum]
  exact ⟨rfl, rfl⟩

/-- Four at a time, with the default settings otherwise, on a host that refuses nothing, where
    nothing was made at first. -/
theorem resumes_idle_four :
    let host := Host.recording fun _ => true
    let found := fun path (made : List String) => made.contains path
    ∃ config course i, Config.load [] (.object [("concurrency", .number 4)]) = .ok config ∧
      Course.of config "seed" "/" (some 0) .bundled = .ok course ∧
      Reachable host found course [] i ∧ i.IsOver course ∧ i.run.tally.failed = 0 ∧
      Ends host found course
        (fun j => j.next = i.next ∧ j.run.tally =
          { nextIndex := i.run.tally.nextIndex
            skipped := i.run.tally.generated + i.run.tally.partly + i.run.tally.skipped })
        (begin course i.run.host) := by
  intro host found
  obtain ⟨config, hload, hskip, hlanguages, hcontributors⟩ : ∃ config,
      Config.load [] (.object [("concurrency", .number 4)]) = .ok config ∧
        config.skipExisting = true ∧ config.languages = Corpus.bundledLanguages ∧
        config.contributors = Corpus.bundledContributors := ⟨_, rfl, rfl, rfl, rfl⟩
  have hconfig : config.IsAccepted := ⟨_, _, hload⟩
  have hfit := Config.isFit_of_bundled hlanguages hcontributors
  obtain ⟨course, hcourse⟩ := Course.exists_of_isAccepted hconfig "seed" "/" (some 0) .bundled
  have hplace : course.config.concurrency.lt 1 = false :=
    Course.config_of hcourse ▸ hconfig.place
  obtain ⟨i, hi, hover, -⟩ := @isRun_generate _ host found course [] hplace
  have hopen : host.IsOpen := ⟨fun _ _ => rfl, fun _ _ _ => rfl, fun _ _ _ => rfl⟩
  obtain ⟨hfailed, -, -⟩ := hi.failed_eq_zero hconfig hfit hcourse hopen
  obtain ⟨course', hcourse', hresumes⟩ := resumes_idle hconfig hskip hcourse
    (Host.isLasting_recording _) hi hover hfailed "seed" (some 0) .bundled
  obtain rfl : course = course' := Except.ok.inj (hcourse.symm.trans hcourse')
  exact ⟨config, course, i, hload, hcourse, hi, hover, hfailed,
    (hresumes host found i.run.host fun _ => rfl).2⟩

end Interleaving

end CorpusForge
