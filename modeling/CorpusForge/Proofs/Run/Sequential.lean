import CorpusForge.Proofs.Run.Course
import CorpusForge.Proofs.Run.Steady
import CorpusForge.Proofs.Run.Walk

/-!
# Concurrency does not change a run

When every job has a fate of its own (`IsFated`), a run takes the jobs that would be taken one at a
time: the fewest, from the first one on, among which enough count towards the target
(`Course.IsFewest`). What it reports is what their fates add up to, in whatever order they were
worked on and counted.

* `Interleaving.Reachable.countAt_lt`: no job is taken after enough of them;
* `Interleaving.IsOver.isFewest`: a run takes no fewer;
* `Interleaving.IsRun.agree`: what a run reports is what the walk over these jobs reports;
* `Interleaving.IsRun.agree_of_isSteady`: so do runs that make different numbers at a time.
-/

namespace CorpusForge

namespace Course

/-- How many of the first jobs count towards the target. -/
def countAt (course : Course) (fate : Job → Fate) (n : Nat) : Nat :=
  (course.jobs.take n).countP fun job => (fate job).counts

/-- The first `n` jobs are the fewest with `target` that count, or all jobs when no more count. -/
structure IsFewest (course : Course) (fate : Job → Fate) (target n : Nat) : Prop where
  le : n ≤ course.jobs.length
  before : ∀ m < n, course.countAt fate m < target
  enough : n < course.jobs.length → target ≤ course.countAt fate n

/-- The tally of a walk over the first `n` jobs, one at a time. -/
def tallyAt (course : Course) (fate : Job → Fate) (n : Nat) : Tally :=
  { Tally.ofEntries ((course.jobs.take n).map fun job => (job, fate job)) with
    nextIndex := course.indexAt n }

/-- The course with another number of places for jobs in the making. -/
def withPlaces (course : Course) (concurrency : Number) : Course :=
  { course with config := { course.config with concurrency } }

variable {course : Course} {fate : Job → Fate} {target m n : Nat}

theorem IsFewest.le_of_isFewest (h : course.IsFewest fate target n)
    (h' : course.IsFewest fate target m) : n ≤ m := by
  by_contra hlt
  have hbefore := h.before m (not_le.1 hlt)
  have henough := h'.enough ((not_le.1 hlt).trans_le h.le)
  omega

theorem IsFewest.unique (h : course.IsFewest fate target n)
    (h' : course.IsFewest fate target m) : n = m :=
  le_antisymm (h.le_of_isFewest h') (h'.le_of_isFewest h)

theorem exists_isFewest (course : Course) (fate : Job → Fate) (target : Nat) :
    ∃ n, course.IsFewest fate target n := by
  have hex : ∃ n, n = course.jobs.length ∨ target ≤ course.countAt fate n := ⟨_, .inl rfl⟩
  refine ⟨Nat.find hex, Nat.find_min' hex (.inl rfl), fun m hm => ?_, fun hlt => ?_⟩
  · exact not_le.1 fun h => Nat.find_min hex hm (.inr h)
  · exact (Nat.find_spec hex).resolve_left hlt.ne

end Course

namespace Interleaving

variable {σ : Type} {host : Host σ} {found : String → σ → Bool} {course : Course} {state : σ}
  {fate : Job → Fate} {i : Interleaving σ} {target : Nat}

/-- The jobs that count are those that were counted, and some of the pending ones. -/
theorem IsAccount.countAt_eq {jobs : List Job}
    (h : i.IsAccount course (jobs.map fun job => (job, fate job))) :
    course.countAt fate i.next =
      i.run.tally.produced + i.pending.countP fun job => (fate job).counts := by
  have hperm := h.jobs.countP_eq fun job => (fate job).counts
  rw [List.countP_append, List.countP_map, List.countP_map] at hperm
  rw [h.produced_eq, List.countP_map, Course.countAt, ← hperm]
  rfl

/-- No job is taken after enough of them. -/
theorem Reachable.countAt_lt (hfate : IsFated host found course state fate)
    (htarget : course.config.targetCount = .real target)
    (hi : Reachable host found course state i) {m : Nat} (hm : m < i.next) :
    course.countAt fate m < target := by
  induction hi with
  | begin => exact absurd hm (Nat.not_lt_zero m)
  | @step i j hi hstep ih =>
    cases hstep with
    | work _ | count _ | look | skip | start _ => exact ih hm
    | @take run next slot hslot hopen =>
      rcases Nat.lt_succ_iff_lt_or_eq.1 hm with hm | rfl
      · exact ih hm
      · -- all pending jobs may count, and still they would not be enough
        obtain ⟨jobs, haccount⟩ := hfate.exists_account hi
        have hpending : (⟨run, m, .free⟩ : Interleaving σ).pending.length =
            run.running.length := by
          simp [pending, Phase.job?]
        calc course.countAt fate m
            = run.tally.produced +
                (⟨run, m, .free⟩ : Interleaving σ).pending.countP fun job => (fate job).counts :=
              haccount.countAt_eq
          _ ≤ run.tally.produced + run.running.length :=
              Nat.add_le_add_left (List.countP_le_length.trans_eq hpending) _
          _ < target := (Run.mayBeEnough_eq_false_iff htarget).1 hopen

/-- When a run is over, it has taken the fewest jobs that are enough. -/
theorem IsOver.isFewest (hfate : IsFated host found course state fate)
    (htarget : course.config.targetCount = .real target)
    (hi : Reachable host found course state i) (hover : i.IsOver course) :
    course.IsFewest fate target i.next := by
  obtain ⟨jobs, haccount⟩ := hfate.exists_account hi
  refine ⟨haccount.next_le, fun m hm => hi.countAt_lt hfate htarget hm, fun hlt => ?_⟩
  rw [haccount.countAt_eq]
  refine Nat.le_add_right_of_le ((Run.isEnough_iff htarget).1 (hover.2.2.resolve_right ?_))
  rw [Quota.slot?_eq, List.getElem?_eq_none_iff, Quota.length_slots, ← Course.length_jobs]
  exact not_le.2 hlt

/-- When a run is over, its tally is that of the walk one at a time. -/
theorem IsOver.agree (hfate : IsFated host found course state fate)
    (hi : Reachable host found course state i) (hover : i.IsOver course) :
    i.run.tally.Agree (course.tallyAt fate i.next) := by
  obtain ⟨jobs, haccount⟩ := hfate.exists_account hi
  have hpending : i.pending = [] := by simp [pending, hover.1, hover.2.1, Phase.job?]
  have hjobs : (jobs.map fun job => (job, fate job)).Perm
      ((course.jobs.take i.next).map fun job => (job, fate job)) := by
    have hperm := haccount.jobs
    rw [hpending, List.append_nil, List.map_map] at hperm
    exact List.Perm.map _ (by simpa [Function.comp_def] using hperm)
  rw [haccount.tally]
  exact (Tally.agree_ofEntries_of_perm hjobs).with_nextIndex _

/-- A run takes the fewest jobs that are enough, and has the tally of the walk over them. -/
theorem IsRun.agree (hfate : IsFated host found course state fate)
    (htarget : course.config.targetCount = .real target) {run : Run σ}
    (hrun : IsRun host found course state run) {n : Nat} (hn : course.IsFewest fate target n) :
    run.tally.Agree (course.tallyAt fate n) := by
  obtain ⟨i, hi, hover, rfl⟩ := hrun
  rw [hn.unique (hover.isFewest hfate htarget hi)]
  exact hover.agree hfate hi

/-- On a steady host the order does not show in what is reported, nor does the concurrency: every
    run agrees with every run of the same course that makes another number of repositories at a
    time. -/
theorem IsRun.agree_of_isSteady (hsteady : host.IsSteady found)
    (htarget : course.config.targetCount = .real target) (concurrency : Number)
    {run run' : Run σ} (hrun : IsRun host found course state run)
    (hrun' : IsRun host found (course.withPlaces concurrency) state run') :
    run.tally.Agree run'.tally := by
  obtain ⟨n, hn⟩ := course.exists_isFewest (course.fateOn host found state) target
  -- neither the jobs nor their fates depend on the number of places
  have hn' : (course.withPlaces concurrency).IsFewest
      ((course.withPlaces concurrency).fateOn host found state) target n :=
    ⟨hn.le, hn.before, hn.enough⟩
  have htarget' : (course.withPlaces concurrency).config.targetCount = .real target := htarget
  have hagree := hrun.agree (isFated_of_isSteady hsteady) htarget hn
  have hagree' := hrun'.agree (isFated_of_isSteady hsteady) htarget' hn'
  exact hagree.trans hagree'.symm

/-- Concurrency does not change a run. With an accepted configuration and a fate for every job,
    every run ends, whatever the order of its steps: it has then taken the fewest jobs that are
    enough, and its tally is that of the walk over them, one at a time. -/
theorem ends_as_one_at_a_time {config : Config} (hconfig : config.IsAccepted) (seed cwd : String)
    (now : Timestamp) (shelf : Shelf) :
    ∃ course, Course.of config seed cwd now shelf = .ok course ∧
      ∀ {σ : Type} (host : Host σ) (found : String → σ → Bool) (state : σ) (fate : Job → Fate),
        IsFated host found course state fate →
        ∃ target n : Nat, config.targetCount = .real target ∧ course.IsFewest fate target n ∧
          Ends host found course
            (fun i => i.next = n ∧ i.run.tally.Agree (course.tallyAt fate n))
            (begin course state) ∧
          (Run.generate host found course state).tally.Agree (course.tallyAt fate n) := by
  obtain ⟨course, hcourse⟩ := Course.exists_of_isAccepted hconfig seed cwd now shelf
  obtain ⟨target, -, htarget⟩ := hconfig.targetCount
  obtain rfl := Course.config_of hcourse
  refine ⟨course, hcourse, fun host found state fate hfate => ?_⟩
  obtain ⟨n, hn⟩ := course.exists_isFewest fate target
  refine ⟨target, n, htarget, hn, ?_, (isRun_generate hconfig.place).agree hfate htarget hn⟩
  refine ends_of_reachable hconfig.place (fun i hi hover => ?_) .begin
  have hnext : i.next = n := (hover.isFewest hfate htarget hi).unique hn
  exact ⟨hnext, hnext ▸ hover.agree hfate hi⟩

/-- Four at a time, with the default settings otherwise, on a host where some histories fail and
    some directories exist. -/
theorem ends_as_one_at_a_time_four :
    let host := Host.accepting fun path => path.length % 3 != 0
    let found := fun path (_ : Unit) => path.length % 5 == 0
    ∃ config course, ∃ target n : Nat,
      Config.load [] (.object [("concurrency", .number 4)]) = .ok config ∧
      Course.of config "seed" "/" (some 0) .bundled = .ok course ∧
      config.targetCount = .real target ∧
      IsFated host found course () (course.fateOn host found ()) ∧
      course.IsFewest (course.fateOn host found ()) target n ∧
      (Run.generate host found course ()).tally.Agree
        (course.tallyAt (course.fateOn host found ()) n) := by
  intro host found
  obtain ⟨config, hload⟩ : ∃ config,
      Config.load [] (.object [("concurrency", .number 4)]) = .ok config := ⟨_, rfl⟩
  obtain ⟨course, hcourse, hends⟩ :=
    ends_as_one_at_a_time ⟨_, _, hload⟩ "seed" "/" (some 0) .bundled
  have hfate : IsFated host found course () (course.fateOn host found ()) :=
    isFated_of_isSteady (host.isSteady_of_subsingleton found)
  obtain ⟨target, n, htarget, hn, -, hagree⟩ := hends host found () _ hfate
  exact ⟨config, course, target, n, hload, hcourse, htarget, hfate, hn, hagree⟩

end Interleaving

end CorpusForge
