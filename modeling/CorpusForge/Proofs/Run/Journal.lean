import CorpusForge.Proofs.History.Replay
import CorpusForge.Proofs.Run.Account

/-!
# The journal of a run

A *journaled* host keeps the calls that were made to it, with its answers. At any moment the commits
that it has accepted are those of the jobs that were counted and those that the jobs in the making
have made so far, however their requests were answered in turn; only that the commits of a job are
lost when something was thrown that has no text.

* `Course.of_leads_work_done`: an outcome tells how many commits were accepted;
* `Interleaving.Reachable.exists_traces`: the journal and the jobs in the making;
* `Interleaving.Reachable.totalCommits_le`, `Interleaving.IsOver.totalCommits_eq`: the commits of a
  run.
-/

namespace CorpusForge

variable {σ : Type}

namespace Transcript

/-- What was thrown has a text. -/
def IsTold (t : Transcript) : Prop :=
  ∀ c thrown, (c, .error thrown) ∈ t → thrown.text? ≠ none

/-- The number of commits that were accepted. -/
def commits (t : Transcript) : Nat := t.accepted.countP Call.isCommit

theorem commits_append_singleton (t : Transcript) (c : Call) (answer : Except Thrown Unit) :
    commits (t ++ [(c, answer)]) = t.commits + if c.isCommit && answer.isOk then 1 else 0 := by
  rw [commits, accepted_append, List.countP_append, commits]
  cases answer with
  | ok => cases hc : c.isCommit <;> simp [accepted, Except.isOk, Except.toBool, hc]
  | error thrown => simp [Except.isOk, Except.toBool]

end Transcript

/-- The host with a journal of the calls that were made to it, with its answers. -/
def Host.journaled (host : Host σ) : Host (σ × Transcript) where
  makeDirs path s := ((host.makeDirs path s.1).1, ((host.makeDirs path s.1).2, s.2))
  writeFile path text s :=
    ((host.writeFile path text s.1).1, ((host.writeFile path text s.1).2, s.2))
  call path c s :=
    ((host.call path c s.1).1, ((host.call path c s.1).2, s.2 ++ [(c, (host.call path c s.1).1)]))

/-- An answer adds to the commits in the journal when it accepts one. -/
theorem Host.commits_answer (host : Host σ) (request : Request) (s : Shared (σ × Transcript)) :
    (host.journaled.answer request s).2.host.2.commits = s.host.2.commits +
      if Exchange.isCommit ⟨request, (host.journaled.answer request s).1⟩ then 1 else 0 := by
  cases request with
  | makeDirs | writeFile | render => rfl
  | call path c => exact Transcript.commits_append_singleton _ _ _

/-- The journal has what was thrown, and keeps what it has. -/
theorem Host.isTold_answer {host : Host σ} {request : Request} {s : Shared (σ × Transcript)}
    (h : (host.journaled.answer request s).2.host.2.IsTold) :
    s.host.2.IsTold ∧
      Exchange.AreTold [⟨request, (host.journaled.answer request s).1⟩] := by
  cases request with
  | makeDirs | writeFile | render =>
    refine ⟨h, fun path c thrown hmem => ?_⟩
    cases List.mem_singleton.1 hmem
  | call path c =>
    refine ⟨fun c' thrown hmem => h c' thrown (List.mem_append_left _ hmem),
      fun path' c' thrown hmem => ?_⟩
    have hlast := List.mem_singleton.1 hmem
    simp only [Sigma.mk.injEq, Request.call.injEq] at hlast
    obtain ⟨⟨rfl, rfl⟩, hanswer⟩ := hlast
    refine h c' thrown (List.mem_append_right _ (List.mem_singleton.2 ?_))
    exact congrArg (Prod.mk c') (eq_of_heq hanswer)

/-- The number of commits that an outcome tells. -/
def committed : Except Failure Repository → Nat
  | .error _ => 0
  | .ok repository => repository.commitsApplied

theorem Tally.totalCommits_countOutcome (t : Tally) (job : Job)
    (outcome : Except Failure Repository) :
    (t.countOutcome job outcome).totalCommits = t.totalCommits + committed outcome := by
  cases outcome with
  | error failure => rfl
  | ok repository =>
    simp only [countOutcome, count, countStatus]
    split <;> split <;> rfl

/-- The outcome of a job is sound, and tells how many commits were accepted: never more, and all of
    them unless something was thrown that has no text. -/
theorem Course.of_leads_work_done {course : Course} {job : Job} {t : List Exchange}
    {outcome : Except Failure Repository} (h : (course.work job).Leads t (.done outcome)) :
    (Fate.made outcome).IsSound ∧ committed outcome ≤ t.countP Exchange.isCommit ∧
      (Exchange.AreTold t → committed outcome = t.countP Exchange.isCommit) := by
  rcases leads_work_done h with ⟨refusal, gen, -, rfl, rfl⟩ |
    ⟨spec, gen, repository, draft, -, rfl, hwork⟩
  · exact ⟨trivial, le_refl _, fun _ => rfl⟩
  · exact Repository.of_leads_work_done hwork

namespace Interleaving

variable {host : Host σ} {found : String → σ × Transcript → Bool} {course : Course} {state : σ}
  {i : Interleaving (σ × Transcript)}

/-- The exchanges of the jobs in the making so far. The commits among them, and those of the jobs
    that were counted, are among the ones in the journal, and are all of them if what was thrown has
    a text. -/
structure IsTraced (course : Course) (i : Interleaving (σ × Transcript))
    (traces : List (Running × List Exchange)) : Prop where
  running : i.run.running = traces.map Prod.fst
  leads : ∀ trace ∈ traces, (course.work trace.1.job).Leads trace.2 trace.1.work
  told : i.run.host.2.IsTold → ∀ trace ∈ traces, Exchange.AreTold trace.2
  commits_le : i.run.tally.totalCommits +
    (traces.map fun trace => trace.2.countP Exchange.isCommit).sum ≤ i.run.host.2.commits
  commits_eq : i.run.host.2.IsTold → i.run.tally.totalCommits +
    (traces.map fun trace => trace.2.countP Exchange.isCommit).sum = i.run.host.2.commits

theorem Reachable.exists_traces
    (hi : Reachable host.journaled found course (state, []) i) :
    ∃ traces, i.IsTraced course traces := by
  induction hi with
  | begin =>
    exact ⟨[], rfl, fun _ hmem => absurd hmem List.not_mem_nil,
      fun _ _ hmem => absurd hmem List.not_mem_nil, le_refl _, fun _ => rfl⟩
  | @step i j hi hstep ih =>
    obtain ⟨traces, hrunning, hleads, htold, hle, heq⟩ := ih
    cases hstep with
    | @work run next phase older younger job request rest hcons =>
      simp only [hcons] at hrunning
      obtain ⟨before, tail, rfl, rfl, htail⟩ := List.map_eq_append_iff.1 hrunning.symm
      obtain ⟨⟨_, t⟩, after, rfl, rfl, rfl⟩ := List.map_eq_cons_iff.1 htail
      simp only [List.forall_mem_append, List.forall_mem_cons] at hleads htold
      obtain ⟨hbefore, hjob, hafter⟩ := hleads
      -- only the exchanges of the job that was answered get longer, as the journal does
      have hanswered := hjob.answered (host.journaled.answer request run.toShared).1
      refine ⟨before ++ (⟨job, rest (host.journaled.answer request run.toShared).1⟩,
        t ++ [⟨request, (host.journaled.answer request run.toShared).1⟩]) :: after,
        by simp, ?_, fun hall => ?_, ?_, fun hall => ?_⟩
      · simp only [List.forall_mem_append, List.forall_mem_cons]
        exact ⟨hbefore, hanswered, hafter⟩
      · obtain ⟨hjournal, hlast⟩ := Host.isTold_answer hall
        obtain ⟨htold₁, htold₂, htold₃⟩ := htold hjournal
        simp only [List.forall_mem_append, List.forall_mem_cons]
        exact ⟨htold₁, Exchange.areTold_append htold₂ hlast, htold₃⟩
      · simp only [List.map_append, List.map_cons, List.sum_append, List.sum_cons,
          List.countP_append, List.countP_singleton, Host.commits_answer] at hle ⊢
        omega
      · have hcommits := heq (Host.isTold_answer hall).1
        simp only [List.map_append, List.map_cons, List.sum_append, List.sum_cons,
          List.countP_append, List.countP_singleton, Host.commits_answer] at hcommits ⊢
        omega
    | @count run next phase older younger job outcome hcons =>
      simp only [hcons] at hrunning
      obtain ⟨before, tail, rfl, rfl, htail⟩ := List.map_eq_append_iff.1 hrunning.symm
      obtain ⟨⟨_, t⟩, after, rfl, rfl, rfl⟩ := List.map_eq_cons_iff.1 htail
      simp only [List.forall_mem_append, List.forall_mem_cons] at hleads htold
      obtain ⟨hbefore, hjob, hafter⟩ := hleads
      -- the commits of the job move from its exchanges to the tally
      obtain ⟨-, hless, hcounted⟩ := Course.of_leads_work_done hjob
      refine ⟨before ++ after, by simp, List.forall_mem_append.2 ⟨hbefore, hafter⟩,
        fun hall => List.forall_mem_append.2 ⟨(htold hall).1, (htold hall).2.2⟩, ?_,
        fun hall => ?_⟩
      · simp only [List.map_append, List.map_cons, List.sum_append, List.sum_cons,
          Run.record_tally, Run.record_toShared, Tally.totalCommits_countOutcome] at hle ⊢
        omega
      · have hcommits := heq hall
        have hsame := hcounted (htold hall).2.1
        simp only [List.map_append, List.map_cons, List.sum_append, List.sum_cons,
          Run.record_tally, Run.record_toShared, Tally.totalCommits_countOutcome] at hcommits ⊢
        omega
    | take hslot hopen =>
      exact ⟨traces, by simpa using hrunning, hleads, by simpa using htold, by simpa using hle,
        by simpa using heq⟩
    | look => exact ⟨traces, hrunning, hleads, htold, hle, heq⟩
    | skip =>
      exact ⟨traces, by simpa using hrunning, hleads, by simpa using htold, by simpa using hle,
        by simpa using heq⟩
    | @start run next job hplace =>
      refine ⟨traces ++ [(⟨job, course.work job⟩, [])], by simpa using hrunning, ?_, fun hall => ?_,
        by simpa using hle, by simpa using heq⟩
      · exact List.forall_mem_append.2 ⟨hleads, List.forall_mem_singleton.2 (.refl _)⟩
      · have hnone : Exchange.AreTold [] := fun _ _ _ hmem => absurd hmem List.not_mem_nil
        exact List.forall_mem_append.2
          ⟨htold (by simpa using hall), List.forall_mem_singleton.2 hnone⟩

/-- What a run counts is sound. -/
theorem Reachable.isSound_of_counts (hi : Reachable host.journaled found course (state, []) i)
    {job : Job} {fate : Fate} (h : i.Counts job fate) : fate.IsSound := by
  obtain ⟨traces, hrunning, hleads, -⟩ := hi.exists_traces
  rcases h with ⟨-, rfl⟩ | ⟨outcome, hmem, rfl⟩
  · exact trivial
  · rw [hrunning] at hmem
    obtain ⟨trace, htrace, heq⟩ := List.mem_map.1 hmem
    have hjob := hleads trace htrace
    rw [heq] at hjob
    exact (Course.of_leads_work_done hjob).1

/-- A run has counted no more commits than were accepted. -/
theorem Reachable.totalCommits_le (hi : Reachable host.journaled found course (state, []) i) :
    i.run.tally.totalCommits ≤ i.run.host.2.commits := by
  obtain ⟨traces, -, -, -, hle, -⟩ := hi.exists_traces
  exact (Nat.le_add_right _ _).trans hle

/-- The commits of a run that is over are those that were accepted, if what was thrown has a text. -/
theorem IsOver.totalCommits_eq (hi : Reachable host.journaled found course (state, []) i)
    (hover : i.IsOver course) (htold : i.run.host.2.IsTold) :
    i.run.tally.totalCommits = i.run.host.2.commits := by
  obtain ⟨traces, hrunning, -, -, -, heq⟩ := hi.exists_traces
  obtain rfl : traces = [] := List.map_eq_nil_iff.1 (hrunning.symm.trans hover.2.1)
  exact heq htold

end Interleaving

end CorpusForge
