import Mathlib.Data.List.Perm.Basic
import Mathlib.Logic.Function.Iterate
import Mathlib.Tactic
import CorpusForge.Proofs.Repository.Outcome
import CorpusForge.Run.Interleaving

/-!
# The jobs of a run and their fates

A slot makes a job (`Course.jobs`), and a job meets a fate: it is kept, because its directory
exists, or it is made, with some outcome (`Fate`). What a tally says of jobs and their fates
(`Tally.ofEntries`) depends on their order for the list of the failures only, and the order of the
failures alone (`Tally.Agree`).

* `Tally.produced_ofEntries`: what counts towards the target;
* `Tally.agree_ofEntries_of_perm`: the order of the jobs does not matter.
-/

namespace CorpusForge

/-! ### Jobs and fates -/

namespace Course

/-- The index of the slot with a number. -/
def indexAt (course : Course) (number : Nat) : Number :=
  Number.next^[number] course.config.startIndex

/-- The job of a slot and its number. -/
def job (course : Course) (number : Nat) (slot : Slot) : Job :=
  ⟨slot, course.indexAt number, repositoryName (course.indexAt number) slot.template⟩

/-- The jobs of all slots, in order. -/
def jobs (course : Course) : List Job := (Quota.slots course.config.categories).mapIdx course.job

theorem indexAt_succ (course : Course) (number : Nat) :
    course.indexAt (number + 1) = (course.indexAt number).next :=
  Function.iterate_succ_apply' _ _ _

theorem length_jobs (course : Course) :
    course.jobs.length = Quota.size course.config.categories := by
  rw [jobs, List.length_mapIdx, Quota.length_slots]

theorem getElem?_jobs {course : Course} {number : Nat} {slot : Slot}
    (hslot : Quota.slot? course.config.categories number = some slot) :
    course.jobs[number]? = some (course.job number slot) := by
  rw [Quota.slot?_eq] at hslot
  rw [jobs, List.getElem?_mapIdx, hslot]
  rfl

/-- The work of a job ends with the making of a repository, unless no specification was drawn. -/
theorem leads_work_done {course : Course} {job : Job} {t : List Exchange}
    {outcome : Except Failure Repository} (h : (course.work job).Leads t (.done outcome)) :
    (∃ refusal gen, course.drawSpec job = (.error refusal, gen) ∧ t = [] ∧
      outcome = .error (Mishap.refusal refusal).normalize) ∨
    ∃ spec gen repository draft, course.drawSpec job = (.ok spec, gen) ∧ outcome = .ok repository ∧
      (Repository.work course.workshop spec (Path.join [course.outputDir, spec.name])
        { gen }).Leads t (.done (repository, draft)) := by
  rw [work] at h
  split at h
  next refusal gen hdraw =>
    obtain ⟨rfl, hdone⟩ := Work.leads_done_iff.1 h
    cases hdone
    exact .inl ⟨refusal, gen, hdraw, rfl, rfl⟩
  next spec gen hdraw =>
    obtain ⟨t₁, t₂, ⟨repository, draft⟩, rfl, hwork, hdone⟩ := Work.leads_bind_done h
    obtain ⟨rfl, hdone⟩ := Work.leads_done_iff.1 hdone
    cases hdone
    rw [List.append_nil]
    exact .inr ⟨spec, gen, repository, draft, hdraw, rfl, hwork⟩

end Course

/-- What becomes of a job. -/
inductive Fate where
  /-- Its directory exists, and is kept. -/
  | kept
  /-- Its repository is made, or fails. -/
  | made (outcome : Except Failure Repository)

/-- The job counts towards the target. -/
def Fate.counts : Fate → Bool
  | kept => true
  | made (.error _) => false
  | made (.ok repository) => repository.status != .failed

/-- A failure is noted for the job. -/
def Fate.isNoted : Fate → Bool
  | kept => false
  | made (.error _) => true
  | made (.ok repository) => repository.error.isSome

/-- A repository that was made has an error exactly when it is no success. -/
def Fate.IsSound : Fate → Prop
  | made (.ok repository) => repository.IsSound
  | _ => True

namespace Tally

/-- Counts a job by its fate. -/
def settle (t : Tally) (job : Job) : Fate → Tally
  | .kept => { t with skipped := t.skipped + 1 }
  | .made outcome => t.countOutcome job outcome

/-- The tally of jobs and their fates; no index is taken. -/
def ofEntries (entries : List (Job × Fate)) : Tally :=
  entries.foldl (fun t entry => t.settle entry.1 entry.2) { nextIndex := 0 }

theorem ofEntries_append_singleton (entries : List (Job × Fate)) (job : Job) (fate : Fate) :
    ofEntries (entries ++ [(job, fate)]) = (ofEntries entries).settle job fate := by
  simp [ofEntries, List.foldl_append]

/-- Counting a job takes no index. -/
theorem settle_with_nextIndex (t : Tally) (job : Job) (fate : Fate) (index : Number) :
    { t with nextIndex := index }.settle job fate =
      { t.settle job fate with nextIndex := index } := by
  cases fate with
  | kept => rfl
  | made outcome =>
    cases outcome with
    | error failure => rfl
    | ok repository =>
      simp only [settle, countOutcome, count, countStatus]
      cases repository.status <;> cases repository.error <;> rfl

theorem produced_countStatus (t : Tally) (repository : Repository) :
    (t.countStatus repository).produced =
      t.produced + if repository.status != .failed then 1 else 0 := by
  rw [countStatus]
  split <;> rename_i hstatus <;> simp [produced, hstatus] <;> omega

theorem produced_count (t : Tally) (job : Job) (repository : Repository) :
    (t.count job repository).produced =
      t.produced + if repository.status != .failed then 1 else 0 := by
  rw [count]
  split <;> exact produced_countStatus _ repository

/-- A job that counts towards the target adds one. -/
theorem produced_settle (t : Tally) (job : Job) (fate : Fate) :
    (t.settle job fate).produced = t.produced + if fate.counts then 1 else 0 := by
  cases fate with
  | kept => simp only [settle, produced, Fate.counts, if_true]; omega
  | made outcome =>
    cases outcome with
    | error failure => rfl
    | ok repository => exact produced_count t job repository

/-- Counting an outcome skips nothing. -/
theorem skipped_countOutcome (t : Tally) (job : Job) (outcome : Except Failure Repository) :
    (t.countOutcome job outcome).skipped = t.skipped := by
  cases outcome with
  | error failure => rfl
  | ok repository =>
    simp only [countOutcome, count, countStatus]
    split <;> split <;> rfl

theorem failed_settle (t : Tally) (job : Job) (fate : Fate) :
    (t.settle job fate).failed = t.failed + if fate.counts then 0 else 1 := by
  cases fate with
  | kept => rfl
  | made outcome =>
    cases outcome with
    | error failure => rfl
    | ok repository =>
      simp only [settle, countOutcome, count, countStatus, Fate.counts]
      split <;> split <;> rename_i hstatus <;> simp [note, hstatus]

theorem failures_settle (t : Tally) (job : Job) (fate : Fate) :
    (t.settle job fate).failures.map RunFailure.index =
      t.failures.map RunFailure.index ++ if fate.isNoted then [job.index] else [] := by
  cases fate with
  | kept => simp [settle, Fate.isNoted]
  | made outcome =>
    cases outcome with
    | error failure => simp [settle, countOutcome, countRefused, note, Fate.isNoted]
    | ok repository =>
      simp only [settle, countOutcome, count, countStatus, Fate.isNoted]
      split <;> rename_i herror <;> split <;> simp [note, herror]

/-- With a sound outcome, a failure is noted for a job that failed or was made in part. -/
theorem length_failures_settle {t : Tally} (h : t.failures.length = t.failed + t.partly)
    (job : Job) {fate : Fate} (hsound : fate.IsSound) :
    (t.settle job fate).failures.length =
      (t.settle job fate).failed + (t.settle job fate).partly := by
  cases fate with
  | kept => exact h
  | made outcome =>
    cases outcome with
    | error failure =>
      simp only [settle, countOutcome, countRefused, note, List.length_append,
        List.length_singleton]
      omega
    | ok repository =>
      -- the status says what is counted, and the error what is noted
      have hiff : repository.status = .success ↔ repository.error = none := hsound
      simp only [settle, countOutcome, count, countStatus]
      split <;> rename_i herror <;> split <;> rename_i hstatus <;>
        simp only [hstatus, herror, reduceCtorEq, iff_true, iff_false, not_true] at hiff <;>
        simp only [note, List.length_append, List.length_singleton] <;> omega

/-- As many jobs are produced as count towards the target. -/
theorem produced_ofEntries (entries : List (Job × Fate)) :
    (ofEntries entries).produced = entries.countP fun entry => entry.2.counts := by
  induction entries using List.reverseRecOn with
  | nil => rfl
  | append_singleton entries entry ih =>
    rw [ofEntries_append_singleton, produced_settle, ih, List.countP_append, List.countP_singleton]

/-- Every job is produced or failed. -/
theorem produced_add_failed_ofEntries (entries : List (Job × Fate)) :
    (ofEntries entries).produced + (ofEntries entries).failed = entries.length := by
  induction entries using List.reverseRecOn with
  | nil => rfl
  | append_singleton entries entry ih =>
    rw [ofEntries_append_singleton, produced_settle, failed_settle, List.length_append, ← ih]
    cases entry.2.counts <;> simp <;> omega

/-- The failures that are noted, in the order of the jobs. -/
theorem failures_ofEntries (entries : List (Job × Fate)) :
    (ofEntries entries).failures.map RunFailure.index =
      (entries.filter fun entry => entry.2.isNoted).map fun entry => entry.1.index := by
  induction entries using List.reverseRecOn with
  | nil => rfl
  | append_singleton entries entry ih =>
    rw [ofEntries_append_singleton, failures_settle, ih, List.filter_append, List.map_append,
      List.filter_singleton]
    cases entry.2.isNoted <;> rfl

/-- With sound outcomes, a failure is noted for each job that failed or was made in part. -/
theorem length_failures_ofEntries {entries : List (Job × Fate)}
    (hsound : ∀ entry ∈ entries, entry.2.IsSound) :
    (ofEntries entries).failures.length =
      (ofEntries entries).failed + (ofEntries entries).partly := by
  induction entries using List.reverseRecOn with
  | nil => rfl
  | append_singleton entries entry ih =>
    simp only [List.forall_mem_append, List.forall_mem_singleton] at hsound
    rw [ofEntries_append_singleton]
    exact length_failures_settle (ih hsound.1) entry.1 hsound.2

/-! ### The order of the jobs -/

/-- Two tallies agree in all their counts, and in the failures up to their order. -/
structure Agree (t u : Tally) : Prop where
  nextIndex : t.nextIndex = u.nextIndex
  generated : t.generated = u.generated
  partly : t.partly = u.partly
  failed : t.failed = u.failed
  skipped : t.skipped = u.skipped
  totalCommits : t.totalCommits = u.totalCommits
  totalFiles : t.totalFiles = u.totalFiles
  failures : (t.failures : Multiset RunFailure) = u.failures

theorem Agree.refl (t : Tally) : t.Agree t := ⟨rfl, rfl, rfl, rfl, rfl, rfl, rfl, rfl⟩

theorem Agree.symm {t u : Tally} (h : t.Agree u) : u.Agree t :=
  ⟨h.nextIndex.symm, h.generated.symm, h.partly.symm, h.failed.symm, h.skipped.symm,
    h.totalCommits.symm, h.totalFiles.symm, h.failures.symm⟩

theorem Agree.trans {t u v : Tally} (h : t.Agree u) (h' : u.Agree v) : t.Agree v :=
  ⟨h.nextIndex.trans h'.nextIndex, h.generated.trans h'.generated, h.partly.trans h'.partly,
    h.failed.trans h'.failed, h.skipped.trans h'.skipped, h.totalCommits.trans h'.totalCommits,
    h.totalFiles.trans h'.totalFiles, h.failures.trans h'.failures⟩

/-- Tallies that agree do so when they have come to the same index. -/
theorem Agree.with_nextIndex {t u : Tally} (h : t.Agree u) (index : Number) :
    { t with nextIndex := index }.Agree { u with nextIndex := index } :=
  { h with nextIndex := rfl }

/-- What a job adds to a tally. -/
def share (job : Job) (fate : Fate) : Tally := { nextIndex := 0 : Tally }.settle job fate

/-- Adds the counts and the failures of one tally to another. -/
def add (t u : Tally) : Tally where
  nextIndex := t.nextIndex
  generated := t.generated + u.generated
  partly := t.partly + u.partly
  failed := t.failed + u.failed
  skipped := t.skipped + u.skipped
  totalCommits := t.totalCommits + u.totalCommits
  totalFiles := t.totalFiles + u.totalFiles
  failures := t.failures ++ u.failures

theorem settle_eq_add (t : Tally) (job : Job) (fate : Fate) :
    t.settle job fate = t.add (share job fate) := by
  cases fate with
  | kept => simp [settle, share, add]
  | made outcome =>
    cases outcome with
    | error failure => simp [settle, share, add, countOutcome, countRefused, note]
    | ok repository =>
      simp only [settle, share, countOutcome, count, countStatus]
      split <;> split <;> simp [add, note]

theorem Agree.add {t u : Tally} (h : t.Agree u) (v : Tally) : (t.add v).Agree (u.add v) where
  nextIndex := h.nextIndex
  generated := congrArg (· + v.generated) h.generated
  partly := congrArg (· + v.partly) h.partly
  failed := congrArg (· + v.failed) h.failed
  skipped := congrArg (· + v.skipped) h.skipped
  totalCommits := congrArg (· + v.totalCommits) h.totalCommits
  totalFiles := congrArg (· + v.totalFiles) h.totalFiles
  failures := by
    simp only [Tally.add, ← Multiset.coe_add]
    rw [h.failures]

theorem agree_add_right_comm (t u v : Tally) : ((t.add u).add v).Agree ((t.add v).add u) where
  nextIndex := rfl
  generated := Nat.add_right_comm _ _ _
  partly := Nat.add_right_comm _ _ _
  failed := Nat.add_right_comm _ _ _
  skipped := Nat.add_right_comm _ _ _
  totalCommits := Nat.add_right_comm _ _ _
  totalFiles := Nat.add_right_comm _ _ _
  failures := by
    simp only [add, ← Multiset.coe_add]
    exact add_right_comm _ _ _

theorem Agree.foldl_settle {t u : Tally} (h : t.Agree u) (entries : List (Job × Fate)) :
    (entries.foldl (fun t entry => t.settle entry.1 entry.2) t).Agree
      (entries.foldl (fun t entry => t.settle entry.1 entry.2) u) := by
  induction entries generalizing t u with
  | nil => exact h
  | cons entry rest ih =>
    refine ih ?_
    simp only [settle_eq_add]
    exact h.add _

/-- The order in which jobs are counted shows in the order of the failures only. -/
theorem agree_ofEntries_of_perm {entries entries' : List (Job × Fate)}
    (h : entries.Perm entries') : (ofEntries entries).Agree (ofEntries entries') := by
  simp only [ofEntries]
  generalize ({ nextIndex := 0 } : Tally) = t
  induction h generalizing t with
  | nil => exact .refl t
  | cons entry _ ih => exact ih _
  | swap entry entry' rest =>
    -- two jobs in the other order give the same counts, and then the rest is counted alike
    refine Agree.foldl_settle ?_ rest
    simp only [settle_eq_add]
    exact agree_add_right_comm _ _ _
  | trans _ _ ih ih' => exact (ih t).trans (ih' t)

end Tally

end CorpusForge
