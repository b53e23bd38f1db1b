import CorpusForge.Proofs.Number.Whole
import CorpusForge.Proofs.Run.Fate

/-!
# The account of a run

The *account* of a run lists the jobs that it has counted, with their fates, in the order in which
it counted them. Whatever the order of the steps, the tally of the run is that of its account, and
the jobs of the account and the pending ones together are those of the slots taken so far
(`IsAccount`).

* `Interleaving.IsAccount.step`: a step adds to the account what it counts;
* `Interleaving.exists_account`: wherever a run gets, it has an account.
-/

namespace CorpusForge

/-- Looking a directory up leaves the job pending. -/
theorem Phase.job?_looked (kept : Bool) (job : Job) :
    (if kept then keeping job else waiting job).job? = some job := by
  split <;> rfl

/-- The first jobs are those of the first slots. -/
theorem Course.exists_slot_of_mem_take {course : Course} {n : Nat} {job : Job}
    (h : job ∈ course.jobs.take n) : ∃ k slot, k < n ∧
      Quota.slot? course.config.categories k = some slot ∧ job = course.job k slot := by
  obtain ⟨k, hk, hget⟩ := List.mem_take_iff_getElem.1 h
  have hjobs : course.jobs[k]? = some job := List.getElem?_eq_some_iff.2 ⟨by omega, hget⟩
  rw [jobs, List.getElem?_mapIdx, Option.map_eq_some_iff] at hjobs
  obtain ⟨slot, hslot, rfl⟩ := hjobs
  rw [← Quota.slot?_eq] at hslot
  exact ⟨k, slot, lt_of_lt_of_le hk (Nat.min_le_left _ _), hslot, rfl⟩

namespace Interleaving

variable {σ : Type} {host : Host σ} {found : String → σ → Bool} {course : Course} {state : σ}
  {i j : Interleaving σ} {entries : List (Job × Fate)}

/-- The jobs that were taken and are not counted yet: those in the making, and the one that is
    looked up or waits. -/
def pending (i : Interleaving σ) : List Job :=
  i.run.running.map Running.job ++ i.phase.job?.toList

theorem mem_pending {job : Job} {work : Work (Except Failure Repository)}
    (h : ⟨job, work⟩ ∈ i.run.running) : job ∈ i.pending :=
  List.mem_append_left _ (List.mem_map_of_mem (f := Running.job) h)

/-- The entries are the jobs that were counted so far, with their fates. -/
structure IsAccount (course : Course) (i : Interleaving σ) (entries : List (Job × Fate)) :
    Prop where
  tally : i.run.tally = { Tally.ofEntries entries with nextIndex := course.indexAt i.next }
  jobs : (entries.map Prod.fst ++ i.pending).Perm (course.jobs.take i.next)
  next_le : i.next ≤ course.jobs.length

theorem isAccount_begin : (begin course state).IsAccount course [] :=
  ⟨rfl, .nil, Nat.zero_le _⟩

/-- As many repositories exist as entries count towards the target. -/
theorem IsAccount.produced_eq (h : i.IsAccount course entries) :
    i.run.tally.produced = entries.countP fun entry => entry.2.counts := by
  rw [h.tally]
  exact Tally.produced_ofEntries entries

/-- An entry is about the job of a slot that was taken. -/
theorem IsAccount.exists_slot (h : i.IsAccount course entries) {entry : Job × Fate}
    (hentry : entry ∈ entries) : ∃ k slot, k < i.next ∧
      Quota.slot? course.config.categories k = some slot ∧ entry.1 = course.job k slot :=
  Course.exists_slot_of_mem_take
    (h.jobs.subset (List.mem_append_left _ (List.mem_map_of_mem hentry)))

/-- What a step counts, it had a reason for. -/
def Counts (i : Interleaving σ) (job : Job) (fate : Fate) : Prop :=
  (i.phase = .keeping job ∧ fate = .kept) ∨
    ∃ outcome, ⟨job, .done outcome⟩ ∈ i.run.running ∧ fate = .made outcome

/-- A step adds to the account what it counts. -/
theorem IsAccount.step (h : i.IsAccount course entries) (hstep : Step host found course i j) :
    ∃ added, j.IsAccount course (entries ++ added) ∧
      ∀ entry ∈ added, i.Counts entry.1 entry.2 := by
  obtain ⟨htally, hjobs, hnext⟩ := h
  cases hstep with
  | @work run next phase older younger job request rest hrunning =>
    refine ⟨[], ⟨by simpa using htally, ?_, hnext⟩, by simp⟩
    simpa [pending, hrunning] using hjobs
  | @count run next phase older younger job outcome hrunning =>
    refine ⟨[(job, .made outcome)], ⟨?_, ?_, hnext⟩, ?_⟩
    · simp only at htally
      rw [Tally.ofEntries_append_singleton, ← Tally.settle_with_nextIndex, ← htally]
      rfl
    · -- the job moves from the middle of the pending ones to the end of the account
      refine .trans ?_ hjobs
      simp only [pending, hrunning, Run.record_running, List.map_append, List.map_cons,
        List.map_nil, List.append_assoc, List.singleton_append]
      exact .append_left _ List.perm_middle.symm
    · simp only [List.mem_singleton, forall_eq]
      exact .inr ⟨outcome, by simp [hrunning], rfl⟩
  | @take run next slot hslot hopen =>
    -- the index that the slot takes is the one of its number
    have hjob := Course.getElem?_jobs hslot
    have hindex : run.tally.nextIndex = course.indexAt next := by rw [htally]
    have hnextJob : run.nextJob slot = course.job next slot := by
      rw [Run.nextJob, hindex]
      rfl
    refine ⟨[], ⟨?_, ?_, (List.getElem?_eq_some_iff.1 hjob).1⟩, by simp⟩
    · simp only at htally ⊢
      rw [Run.announce_tally, hindex, ← Course.indexAt_succ, htally, List.append_nil]
    · simp only [pending, Phase.job?, Run.announce_running, Option.toList_some, Option.toList_none,
        List.append_nil] at hjobs ⊢
      rw [List.take_add_one, hjob, hnextJob, ← List.append_assoc]
      exact hjobs.append_right _
  | @look run next job =>
    refine ⟨[], ⟨by simpa using htally, ?_, hnext⟩, by simp⟩
    simp only [pending, Phase.job?_looked, List.append_nil]
    exact hjobs
  | @skip run next job =>
    refine ⟨[(job, .kept)], ⟨?_, ?_, hnext⟩, ?_⟩
    · simp only at htally
      rw [Tally.ofEntries_append_singleton, ← Tally.settle_with_nextIndex, ← htally]
      rfl
    · -- no job is pending in a phase any more, so the new entry goes before those in the making
      refine .trans ?_ hjobs
      simp only [pending, Phase.job?, Run.skip_running, Option.toList_some, Option.toList_none,
        List.map_append, List.map_cons, List.map_nil, List.append_nil, List.append_assoc]
      exact .append_left _ List.perm_append_comm
    · simp only [List.mem_singleton, forall_eq]
      exact .inl ⟨rfl, rfl⟩
  | @start run next job hplace =>
    refine ⟨[], ⟨by simpa using htally, ?_, hnext⟩, by simp⟩
    simpa [pending, Phase.job?] using hjobs

/-- Wherever a run gets, it has an account, and its entries are as `Q` says, when what a step counts
    is so after it, and an entry stays so. -/
theorem exists_account_of_step {Q : Interleaving σ → Job → Fate → Prop}
    (hcount : ∀ i j job fate, Reachable host found course state i → Step host found course i j →
      i.Counts job fate → Q j job fate)
    (hkeep : ∀ i j job fate, Reachable host found course state i → Step host found course i j →
      Q i job fate → Q j job fate)
    (hi : Reachable host found course state i) :
    ∃ entries, i.IsAccount course entries ∧ ∀ entry ∈ entries, Q i entry.1 entry.2 := by
  induction hi with
  | begin => exact ⟨[], isAccount_begin, by simp⟩
  | @step i j hi hstep ih =>
    obtain ⟨entries, haccount, hentries⟩ := ih
    obtain ⟨added, haccount', hadded⟩ := haccount.step hstep
    refine ⟨entries ++ added, haccount', fun entry hentry => ?_⟩
    rcases List.mem_append.1 hentry with hold | hnew
    · exact hkeep i j entry.1 entry.2 hi hstep (hentries entry hold)
    · exact hcount i j entry.1 entry.2 hi hstep (hadded entry hnew)

/-- What holds of all that a step may count holds of the entries. -/
theorem exists_account {Q : Job → Fate → Prop}
    (hQ : ∀ i job fate, Reachable host found course state i → i.Counts job fate → Q job fate)
    (hi : Reachable host found course state i) :
    ∃ entries, i.IsAccount course entries ∧ ∀ entry ∈ entries, Q entry.1 entry.2 :=
  exists_account_of_step (Q := fun _ => Q) (fun i _ job fate hi _ => hQ i job fate hi)
    (fun _ _ _ _ _ _ => id) hi

theorem exists_isAccount (hi : Reachable host found course state i) :
    ∃ entries, i.IsAccount course entries :=
  (exists_account (Q := fun _ _ => True) (fun _ _ _ _ _ => trivial) hi).imp fun _ => And.left

/-- A job that is pending is the one of a slot that was taken. -/
theorem Reachable.exists_slot (hi : Reachable host found course state i) :
    ∀ job ∈ i.pending, ∃ k slot, k < i.next ∧
      Quota.slot? course.config.categories k = some slot ∧ job = course.job k slot := by
  intro job hjob
  obtain ⟨entries, haccount⟩ := exists_isAccount hi
  exact Course.exists_slot_of_mem_take (haccount.jobs.subset (List.mem_append_right _ hjob))

/-! ### The end of a run -/

/-- Every slot that was taken is counted or pending. -/
theorem Reachable.produced_add_failed_add_pending (hi : Reachable host found course state i) :
    i.run.tally.produced + i.run.tally.failed + i.pending.length = i.next := by
  obtain ⟨entries, haccount⟩ := exists_isAccount hi
  have hlength := haccount.jobs.length_eq
  rw [List.length_append, List.length_map, List.length_take,
    Nat.min_eq_left haccount.next_le, ← Tally.produced_add_failed_ofEntries] at hlength
  rw [haccount.tally]
  exact hlength

/-- When a run is over, nothing is pending. -/
theorem IsOver.pending_eq_nil (hover : i.IsOver course) : i.pending = [] := by
  simp [pending, hover.1, hover.2.1, Phase.job?]

/-- When a run is over, every slot that it took is counted. -/
theorem IsOver.produced_add_failed (hi : Reachable host found course state i)
    (hover : i.IsOver course) : i.run.tally.produced + i.run.tally.failed = i.next := by
  have hsum := hi.produced_add_failed_add_pending
  rwa [hover.pending_eq_nil] at hsum

end Interleaving

/-! ### Whole targets -/

namespace Run

variable {σ : Type} {course : Course} {run : Run σ} {target : Nat}

theorem isEnough_iff (htarget : course.config.targetCount = .real target) :
    run.isEnough course = true ↔ target ≤ run.tally.produced := by
  rw [isEnough, htarget, Number.atMost_natCast_iff]

theorem mayBeEnough_eq_false_iff (htarget : course.config.targetCount = .real target) :
    run.mayBeEnough course = false ↔ run.tally.produced + run.running.length < target := by
  rw [mayBeEnough, htarget, Bool.eq_false_iff, ne_eq, Number.atMost_natCast_iff, not_le]

end Run

/-- A run that is over without enough repositories has taken all slots. -/
theorem Interleaving.IsOver.next_eq_size {σ : Type} {host : Host σ} {found : String → σ → Bool}
    {course : Course} {state : σ} {i : Interleaving σ} {target : Nat}
    (htarget : course.config.targetCount = .real target)
    (hi : Reachable host found course state i) (hover : i.IsOver course)
    (hlt : i.run.tally.produced < target) : i.next = Quota.size course.config.categories := by
  obtain ⟨entries, haccount⟩ := exists_isAccount hi
  have hmore := hover.2.2.resolve_left fun henough =>
    absurd ((Run.isEnough_iff htarget).1 henough) (not_le.2 hlt)
  rw [Quota.slot?_eq, List.getElem?_eq_none_iff, Quota.length_slots] at hmore
  exact le_antisymm (haccount.next_le.trans_eq course.length_jobs) hmore

end CorpusForge
