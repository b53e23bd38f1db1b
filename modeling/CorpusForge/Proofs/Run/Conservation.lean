import CorpusForge.Proofs.Run.Course
import CorpusForge.Proofs.Run.Journal
import CorpusForge.Proofs.Run.Steady
import CorpusForge.Proofs.Run.Walk

/-!
# What a run accounts for

Whatever is found, refused, and answered in which order:

* at every moment, the repositories that exist and the jobs that are pending are no more than the
  target (`Interleaving.Reachable.produced_add_pending_le`);
* a run that is over has counted every slot that it took, and every commit that was accepted, unless
  something was thrown that has no text (`Interleaving.IsBalanced`).
-/

namespace CorpusForge

/-! ### Indexes -/

theorem forall₂_eq_map_iff {α β : Type} {f : α → β} {l : List β} {l' : List α} :
    List.Forall₂ (fun b a => b = f a) l l' ↔ l = l'.map f := by
  rw [← List.forall₂_map_right_iff, List.forall₂_eq_eq_eq]

/-- Each entry of a rearranged image comes from an element of its own. -/
theorem exists_map_eq_of_perm_map {α β : Type} {f : α → β} {l : List β} {l' : List α}
    (h : l.Perm (l'.map f)) : ∃ origin : List α, origin.Perm l' ∧ l = origin.map f := by
  obtain ⟨origin, hforall, hperm⟩ := List.perm_comp_forall₂ h (forall₂_eq_map_iff.2 rfl)
  exact ⟨origin, hperm, forall₂_eq_map_iff.1 hforall⟩

namespace Course

variable {course : Course} {start n : Nat}

theorem map_index_jobs (course : Course) :
    course.jobs.map Job.index = (List.range course.jobs.length).map course.indexAt := by
  refine List.ext_getElem (by simp) fun k _ _ => ?_
  simp [jobs, job]

/-- The indexes of the first slots are whole numbers that follow on each other. -/
theorem isCount_indexAt (hstart : course.config.startIndex.IsCount start) {k : Nat}
    (hk : start + k ≤ 2 ^ 53) : (course.indexAt k).IsCount (start + k) :=
  hstart.iterate_next hk

/-- The index of a slot tells its number. -/
theorem eq_of_indexAt_eq (hstart : course.config.startIndex.IsCount start) {k m : Nat}
    (hk : start + k ≤ 2 ^ 53) (hm : start + m ≤ 2 ^ 53)
    (heq : course.indexAt k = course.indexAt m) : k = m := by
  have hcount := isCount_indexAt hstart hk
  rw [heq] at hcount
  have hsame := hcount.unique (isCount_indexAt hstart hm)
  omega

/-- The indexes of different slots are different. -/
theorem nodup_map_indexAt (hstart : course.config.startIndex.IsCount start)
    (hn : start + n ≤ 2 ^ 53) {numbers : List Nat} (hnodup : numbers.Nodup)
    (hlt : ∀ k ∈ numbers, k < n) : (numbers.map course.indexAt).Nodup := by
  have hle : ∀ k ∈ numbers, start + k ≤ 2 ^ 53 := fun k hk =>
    (Nat.add_le_add_left (hlt k hk).le _).trans hn
  exact hnodup.map_on fun k hk m hm => eq_of_indexAt_eq hstart (hle k hk) (hle m hm)

end Course

namespace Interleaving

variable {σ : Type} {host : Host σ} {found : String → σ → Bool} {course : Course} {state : σ}
  {i : Interleaving σ} {target : Nat}

/-! ### Every moment -/

/-- At every moment, the repositories that exist and the jobs that are pending are no more than the
    target. -/
theorem Reachable.produced_add_pending_le (htarget : course.config.targetCount = .real target)
    (hi : Reachable host found course state i) :
    i.run.tally.produced + i.pending.length ≤ target := by
  induction hi with
  | begin => exact Nat.zero_le target
  | @step i j hi hstep ih =>
    cases hstep with
    | work hcons => simpa [pending, hcons] using ih
    | @count run next phase older younger job outcome hcons =>
      -- a job that is counted leaves the pending ones, and adds one at most
      have hproduced := Tally.produced_settle run.tally job (.made outcome)
      have hlength : (pending ⟨run, next, phase⟩).length =
          (pending ⟨{ run with running := older ++ younger }, next, phase⟩).length + 1 := by
        simp [pending, hcons]
        omega
      have hone : (if (Fate.made outcome).counts then 1 else 0) ≤ 1 := by split <;> simp
      calc (run.tally.settle job (.made outcome)).produced +
            (pending ⟨{ run with running := older ++ younger }, next, phase⟩).length
          ≤ run.tally.produced + (pending ⟨run, next, phase⟩).length := by omega
        _ ≤ target := ih
    | @take run next slot hslot hopen =>
      have hlt := (Run.mayBeEnough_eq_false_iff htarget).1 hopen
      have hproduced : (run.announce course slot).tally.produced = run.tally.produced := by
        rw [Run.announce_tally]
        rfl
      simp only [pending, Phase.job?, Run.announce_running, List.length_append, List.length_map,
        Option.toList_some, List.length_singleton, hproduced]
      exact hlt
    | @look run next job =>
      simp only [pending, Phase.job?_looked]
      exact ih
    | @skip run next job =>
      have hproduced : (run.skip course job).tally.produced = run.tally.produced + 1 := by
        simp only [Run.skip_tally, Tally.produced]
        omega
      simp only [pending, Phase.job?, Run.skip_running, List.length_append, List.length_map,
        Option.toList_some, Option.toList_none, List.length_singleton, List.length_nil,
        hproduced] at ih ⊢
      omega
    | start => simpa [pending, Phase.job?, Nat.add_assoc] using ih

theorem Reachable.produced_le (htarget : course.config.targetCount = .real target)
    (hi : Reachable host found course state i) : i.run.tally.produced ≤ target :=
  (Nat.le_add_right _ _).trans (hi.produced_add_pending_le htarget)

/-! ### The end -/

/-- As long as no slot has failed, no more slots are taken than repositories are to be made, or than
    there are. -/
theorem Reachable.next_le_min (htarget : course.config.targetCount = .real target)
    (hi : Reachable host found course state i) (hfailed : i.run.tally.failed = 0) :
    i.next ≤ min target (Quota.size course.config.categories) := by
  have hsum := hi.produced_add_failed_add_pending
  have hle := hi.produced_add_pending_le htarget
  obtain ⟨entries, haccount⟩ := exists_isAccount hi
  have hsize := haccount.next_le.trans_eq course.length_jobs
  omega

/-- A run that is over has taken as many slots as it was to make repositories, or all of them. -/
theorem IsOver.min_le_next (htarget : course.config.targetCount = .real target)
    (hi : Reachable host found course state i) (hover : i.IsOver course) :
    min target (Quota.size course.config.categories) ≤ i.next := by
  have hsum := hover.produced_add_failed hi
  by_cases hlt : i.run.tally.produced < target
  · have hall := hover.next_eq_size htarget hi hlt
    omega
  · omega

/-- A run in which no slot fails has taken as many slots as it was to make repositories, or all. -/
theorem IsOver.next_eq_min (htarget : course.config.targetCount = .real target)
    (hi : Reachable host found course state i) (hover : i.IsOver course)
    (hfailed : i.run.tally.failed = 0) :
    i.next = min target (Quota.size course.config.categories) :=
  le_antisymm (hi.next_le_min htarget hfailed) (hover.min_le_next htarget hi)

/-- The books of a run that took `n` slots are balanced. -/
structure IsBalanced (course : Course) (target n : Nat) (journal : Transcript) (t : Tally) :
    Prop where
  /-- Every slot was counted once. -/
  slots : t.generated + t.partly + t.skipped + t.failed = n
  /-- Every slot took an index. -/
  nextIndex : t.nextIndex = course.indexAt n
  /-- No more than the target exists. -/
  produced_le : t.generated + t.partly + t.skipped ≤ target
  /-- Fewer than the target exist only when there is no further slot. -/
  exhausted : t.generated + t.partly + t.skipped < target →
    n = Quota.size course.config.categories
  /-- What failed, or was made in part, has a failure. -/
  failures_length : t.failures.length = t.failed + t.partly
  /-- The failures are those of different slots. -/
  failures : ∃ numbers : List Nat, numbers.Nodup ∧ (∀ k ∈ numbers, k < n) ∧
    t.failures.map RunFailure.index = numbers.map course.indexAt
  /-- No commit was counted that was not accepted. -/
  commits_le : t.totalCommits ≤ journal.commits
  /-- Every commit that was accepted was counted, if what was thrown has a text. -/
  commits_eq : journal.IsTold → t.totalCommits = journal.commits

/-- The indexes of a run that took `n` slots are whole numbers: the next one is `n` above the first
    one, and the failures have different ones below it. -/
structure IsIndexed (start n : Nat) (t : Tally) : Prop where
  nextIndex : t.nextIndex.IsCount (start + n)
  nodup : (t.failures.map RunFailure.index).Nodup
  range : ∀ failure ∈ t.failures, ∃ k, start ≤ k ∧ k < start + n ∧ failure.index.IsCount k

/-- Balanced books are indexed as far as numbers are exact. -/
theorem IsBalanced.isIndexed {n start : Nat} {journal : Transcript} {t : Tally}
    (h : IsBalanced course target n journal t) (hstart : course.config.startIndex.IsCount start)
    (hn : start + n ≤ 2 ^ 53) : IsIndexed start n t := by
  obtain ⟨numbers, hnodup, hlt, hnumbers⟩ := h.failures
  refine ⟨h.nextIndex ▸ Course.isCount_indexAt hstart hn, ?_, fun failure hfailure => ?_⟩
  · rw [hnumbers]
    exact Course.nodup_map_indexAt hstart hn hnodup hlt
  · have hindex := List.mem_map_of_mem (f := RunFailure.index) hfailure
    rw [hnumbers] at hindex
    obtain ⟨k, hk, heq⟩ := List.mem_map.1 hindex
    have hkn := hlt k hk
    refine ⟨start + k, Nat.le_add_right _ _, by omega, ?_⟩
    rw [← heq]
    exact Course.isCount_indexAt hstart (by omega)

/-- The books of a run that is over are balanced. -/
theorem IsOver.isBalanced {found : String → σ × Transcript → Bool}
    {i : Interleaving (σ × Transcript)} (htarget : course.config.targetCount = .real target)
    (hi : Reachable host.journaled found course (state, []) i) (hover : i.IsOver course) :
    IsBalanced course target i.next i.run.host.2 i.run.tally := by
  obtain ⟨entries, haccount, hsound⟩ := exists_account
    (fun i job fate hi hcounts => hi.isSound_of_counts hcounts) hi
  have hjobs : (entries.map Prod.fst).Perm (course.jobs.take i.next) := by
    simpa [hover.pending_eq_nil] using haccount.jobs
  have hfailures : i.run.tally.failures = (Tally.ofEntries entries).failures := by
    rw [haccount.tally]
  refine ⟨hover.produced_add_failed hi, ?_, hi.produced_le htarget, hover.next_eq_size htarget hi,
    ?_, ?_, hi.totalCommits_le, hover.totalCommits_eq hi⟩
  · rw [haccount.tally]
  · rw [haccount.tally]
    exact Tally.length_failures_ofEntries hsound
  · -- the failures are noted for some of the slots that were taken, in another order
    have hindexes : (entries.map fun entry => entry.1.index).Perm
        ((List.range i.next).map course.indexAt) := by
      have hperm := hjobs.map Job.index
      rw [List.map_map, List.map_take, Course.map_index_jobs, ← List.map_take, List.take_range,
        Nat.min_eq_left haccount.next_le] at hperm
      exact hperm
    obtain ⟨origin, horigin, hmap⟩ := exists_map_eq_of_perm_map hindexes
    have hsublist : (i.run.tally.failures.map RunFailure.index).Sublist
        (origin.map course.indexAt) := by
      rw [hfailures, Tally.failures_ofEntries, ← hmap]
      exact List.filter_sublist.map _
    obtain ⟨numbers, hnumbers, heq⟩ := List.sublist_map_iff.1 hsublist
    refine ⟨numbers, hnumbers.nodup (horigin.nodup_iff.2 List.nodup_range), fun k hk => ?_, heq⟩
    exact List.mem_range.1 (horigin.subset (hnumbers.subset hk))

/-- What a run accounts for. With an accepted configuration, whatever is found and refused and in
    whatever order: at every moment the repositories that exist and the jobs that are pending are
    no more than the target; and every run ends, with balanced books. Their indexes are whole
    numbers as far as numbers are exact. -/
theorem ends_balanced {config : Config} (hconfig : config.IsAccepted) (seed cwd : String)
    (now : Timestamp) (shelf : Shelf) :
    ∃ course, Course.of config seed cwd now shelf = .ok course ∧
      ∃ target start : Nat, config.targetCount = .real target ∧ config.startIndex.IsCount start ∧
        ∀ {σ : Type} (host : Host σ) (found : String → σ → Bool) (state : σ),
          (∀ i, Reachable host found course state i →
            i.run.tally.generated + i.run.tally.partly + i.run.tally.skipped +
              i.pending.length ≤ target) ∧
          Ends host.journaled (fun path s => found path s.1) course
            (fun i => IsBalanced course target i.next i.run.host.2 i.run.tally ∧
              (start + i.next ≤ 2 ^ 53 → IsIndexed start i.next i.run.tally))
            (begin course (state, [])) ∧
          ∃ run : Run (σ × Transcript), ∃ n,
            run = .generate host.journaled (fun path s => found path s.1) course (state, []) ∧
            IsBalanced course target n run.host.2 run.tally ∧
            (start + n ≤ 2 ^ 53 → IsIndexed start n run.tally) := by
  obtain ⟨course, hcourse⟩ := Course.exists_of_isAccepted hconfig seed cwd now shelf
  obtain ⟨target, -, htarget⟩ := hconfig.targetCount
  obtain ⟨start, -, hstart⟩ := hconfig.startIndex
  obtain rfl := Course.config_of hcourse
  refine ⟨course, hcourse, target, start, htarget, hstart, fun host found state => ⟨?_, ?_, ?_⟩⟩
  · exact fun i hi => hi.produced_add_pending_le htarget
  · refine ends_of_reachable hconfig.place (fun i hi hover => ?_) .begin
    have hbalanced := hover.isBalanced htarget hi
    exact ⟨hbalanced, hbalanced.isIndexed hstart⟩
  · obtain ⟨i, hi, hover, hrun⟩ := @isRun_generate _ host.journaled (fun path s => found path s.1)
      course (state, []) hconfig.place
    have hbalanced := hover.isBalanced htarget hi
    refine ⟨_, i.next, rfl, ?_⟩
    rw [hrun]
    exact ⟨hbalanced, hbalanced.isIndexed hstart⟩

/-- Four at a time, with the default settings otherwise, on a host where some histories fail. -/
theorem ends_balanced_four :
    ∃ config course, ∃ target n : Nat, ∃ run : Run (Unit × Transcript),
      Config.load [] (.object [("concurrency", .number 4)]) = .ok config ∧
      Course.of config "seed" "/" (some 0) .bundled = .ok course ∧
      run = .generate (Host.accepting fun path => path.length % 3 != 0).journaled
        (fun _ _ => false) course ((), []) ∧
      IsBalanced course target n run.host.2 run.tally := by
  obtain ⟨config, hload⟩ : ∃ config,
      Config.load [] (.object [("concurrency", .number 4)]) = .ok config := ⟨_, rfl⟩
  obtain ⟨course, hcourse, target, start, -, -, hends⟩ :=
    ends_balanced ⟨_, _, hload⟩ "seed" "/" (some 0) .bundled
  obtain ⟨-, -, run, n, hrun, hbalanced, -⟩ :=
    hends (Host.accepting fun path => path.length % 3 != 0) (fun _ _ => false) ()
  exact ⟨config, course, target, n, run, hload, hcourse, hrun, hbalanced⟩

end Interleaving

end CorpusForge
