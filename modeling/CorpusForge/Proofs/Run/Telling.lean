import CorpusForge.Proofs.Run.Steady

/-!
# What a run tells

An event about a repository is about the job of a slot that was taken, and says what that job is:
that it is kept, with which specification it starts, or how its work ended. So it is at every
moment, in whatever order the jobs are worked on.

* `Course.Tells`: what may be told of a job;
* `Interleaving.Reachable.answered`: what is left of the work of the jobs in the making;
* `Interleaving.Reachable.tells`: the events of a run.
-/

namespace CorpusForge

/-- The index that an event about a repository names. -/
def Event.index? : Event → Option Number
  | repositoryStarted index _ | repositorySkipped index _ _ | repositoryCompleted index _
  | repositoryFailed index _ _ => some index
  | runStarted _ _ _ | categoryStarted _ _ | runCompleted _ => none

theorem Job.index?_ending (job : Job) (outcome : Except Failure Repository) :
    (job.ending outcome).index? = some job.index := by
  cases outcome with
  | error failure => rfl
  | ok repository =>
    simp only [ending]
    split <;> rfl

/-- What may be told of a job. -/
inductive Course.Tells (course : Course) (job : Job) : Event → Prop where
  | kept : Tells course job (.repositorySkipped job.index job.name (course.path job))
  | started {spec : Spec} (hspec : (course.drawSpec job).1 = .ok spec) :
    Tells course job (.repositoryStarted job.index spec)
  | ended {t : List Exchange} {outcome : Except Failure Repository}
    (hwork : (course.work job).Leads t (.done outcome)) : Tells course job (job.ending outcome)

theorem Course.Tells.index?_eq {course : Course} {job : Job} {event : Event}
    (h : course.Tells job event) : event.index? = some job.index := by
  cases h with
  | kept | started => rfl
  | ended => exact job.index?_ending _

/-- What the host may have answered, with templates of the shelf. -/
def Host.Answers {σ : Type} (host : Host σ) (shelf : Shelf) (exchange : Exchange) : Prop :=
  ∃ s : Shared σ, shelf.Holds s.kept ∧ (host.answer exchange.1 s).1 = exchange.2

/-- The work is what is left of a job by answers of the host. -/
def Course.HasAnswered {σ : Type} (course : Course) (host : Host σ) (job : Job)
    (work : Work (Except Failure Repository)) : Prop :=
  ∃ t, (course.work job).Leads t work ∧
    ∀ exchange ∈ t, host.Answers course.workshop.shelf exchange

section

variable {σ : Type} {course : Course} {host : Host σ} {job : Job} {request : Request}
  {rest : request.Answer → Work (Except Failure Repository)}

/-- What a job asks next is on the shelf of its workshop. -/
theorem Course.HasAnswered.isOn (h : course.HasAnswered host job (.ask request rest))
    (s : Shared σ) : request.IsOn course.workshop.shelf := by
  obtain ⟨t, hwork, -⟩ := h
  exact (course.asks_work job).of_leads hwork (host.answer request s).1

/-- One more request of a job is answered. -/
theorem Course.HasAnswered.answered (h : course.HasAnswered host job (.ask request rest))
    {s : Shared σ} (hholds : course.workshop.shelf.Holds s.kept) :
    course.HasAnswered host job (rest (host.answer request s).1) := by
  obtain ⟨t, hwork, hanswers⟩ := h
  exact ⟨_, hwork.answered _, List.forall_mem_append.2
    ⟨hanswers, List.forall_mem_singleton.2 ⟨s, hholds, rfl⟩⟩⟩

end

/-- A repository that was made has come to its outcome by answers of the host. -/
def Fate.IsAnswered {σ : Type} (host : Host σ) (course : Course) (job : Job) : Fate → Prop
  | kept => True
  | made outcome => course.HasAnswered host job (.done outcome)

namespace Interleaving

variable {σ : Type} {host : Host σ} {found : String → σ → Bool} {course : Course} {state : σ}
  {i j : Interleaving σ}

/-- The templates that are kept are those of the workshop, and what is left of the work of a job in
    the making follows on what the job has asked so far, and on what the host has answered. -/
theorem Reachable.answered (hi : Reachable host found course state i) :
    course.workshop.shelf.Holds i.run.kept ∧
      ∀ r ∈ i.run.running, course.HasAnswered host r.job r.work := by
  induction hi with
  | begin => exact ⟨Artifact.holds_nil _, fun _ hmem => absurd hmem List.not_mem_nil⟩
  | @step i j hi hstep ih =>
    obtain ⟨hholds, hrunning⟩ := ih
    exact ⟨hstep.holds hholds fun _ _ _ hmem => (hrunning _ hmem).isOn i.run.toShared,
      hstep.forall_running hrunning (fun _ hjob => hjob)
        (fun _ _ _ hjob _ => hjob.answered hholds) fun _ _ => ⟨[], .refl _, List.forall_mem_nil _⟩⟩

/-- What is counted was answered by the host. -/
theorem Reachable.isAnswered (hi : Reachable host found course state i) {job : Job} {fate : Fate}
    (hcounts : i.Counts job fate) : fate.IsAnswered host course job := by
  rcases hcounts with ⟨-, rfl⟩ | ⟨outcome, hmem, rfl⟩
  · exact trivial
  · have hanswered := hi.answered.2 _ hmem
    exact hanswered

/-- A step tells of a pending job, if of any. -/
theorem Step.tells (hi : Reachable host found course state i)
    (hstep : Step host found course i j) :
    ∀ event ∈ j.run.events, event ∈ i.run.events ∨ event.index? = none ∨
      ∃ job ∈ i.pending, course.Tells job event := by
  have hanswered := hi.answered.2
  cases hstep with
  | work hrunning => exact fun event hevent => .inl hevent
  | @count run next phase older younger job outcome hrunning =>
    intro event hevent
    rcases List.mem_cons.1 hevent with rfl | hevent
    · have hmem : ⟨job, .done outcome⟩ ∈ run.running := by simp [hrunning]
      obtain ⟨t, hwork, -⟩ := hanswered _ hmem
      exact .inr (.inr ⟨job, mem_pending hmem, .ended hwork⟩)
    · exact .inl hevent
  | @take run next slot hslot hopen =>
    intro event hevent
    simp only [Run.announce] at hevent
    split at hevent
    · -- the first slot of a category announces it
      rcases List.mem_cons.1 hevent with rfl | hevent
      · exact .inr (.inl rfl)
      · exact .inl hevent
    · exact .inl hevent
  | look => exact fun event hevent => .inl hevent
  | @skip run next job =>
    intro event hevent
    rcases List.mem_cons.1 hevent with rfl | hevent
    · exact .inr (.inr ⟨job, by simp [pending, Phase.job?], .kept⟩)
    · exact .inl hevent
  | @start run next job hplace =>
    intro event hevent
    simp only [Run.launch, Run.join, Run.tellStart] at hevent
    split at hevent
    next spec gen hdraw =>
      rcases List.mem_cons.1 hevent with rfl | hevent
      · have hspec : (course.drawSpec job).1 = .ok spec := by rw [hdraw]
        exact .inr (.inr ⟨job, by simp [pending, Phase.job?], .started hspec⟩)
      · exact .inl hevent
    next => exact .inl hevent

/-- A step takes no slot back. -/
theorem Step.next_le (hstep : Step host found course i j) : i.next ≤ j.next := by
  cases hstep with
  | take _ _ => exact Nat.le_succ _
  | work _ | count _ | look | skip | start _ => exact Nat.le_refl _

/-- Every event about a repository tells of the job of a slot that was taken. -/
theorem Reachable.tells (hi : Reachable host found course state i) :
    ∀ event ∈ i.run.events, ∀ index, event.index? = some index →
      ∃ k slot, k < i.next ∧ Quota.slot? course.config.categories k = some slot ∧
        course.Tells (course.job k slot) event := by
  induction hi with
  | begin =>
    intro event hevent index hindex
    obtain rfl := List.mem_singleton.1 hevent
    exact nomatch hindex
  | @step i j hi hstep ih =>
    intro event hevent index hindex
    rcases hstep.tells hi event hevent with hold | hnone | ⟨job, hjob, htells⟩
    · obtain ⟨k, slot, hk, hslot, htells⟩ := ih event hold index hindex
      exact ⟨k, slot, hk.trans_le hstep.next_le, hslot, htells⟩
    · exact nomatch hnone.symm.trans hindex
    · obtain ⟨k, slot, hk, hslot, rfl⟩ := hi.exists_slot job hjob
      exact ⟨k, slot, hk.trans_le hstep.next_le, hslot, htells⟩

end Interleaving

end CorpusForge
