import CorpusForge.Proofs.Repository.Outcome
import CorpusForge.Run.Interleaving

/-!
# What a step does

Most invariants of a run are about the job that waits or is kept, about the jobs in the making, or
about what the jobs share. So what a step does to each of these is said once: a job is kept or waits
because it was looked up, a job is in the making because it has started, and what the jobs share
changes by answers to their requests only.

* `Interleaving.Step.of_keeping`, `Interleaving.Step.of_waiting`: where a phase comes from;
* `Interleaving.Step.toShared_eq`, `Interleaving.Step.holds`: what is shared;
* `Interleaving.Step.forall_running`: the jobs in the making.
-/

namespace CorpusForge

namespace Interleaving

variable {σ : Type} {host : Host σ} {found : String → σ → Bool} {course : Course}
  {i j : Interleaving σ} {job : Job}

/-- A job is kept since it was looked up and found. -/
theorem Step.of_keeping (hstep : Step host found course i j) (hphase : j.phase = .keeping job) :
    i.phase = .keeping job ∨
      i.phase = .looking job ∧ i.run.isKept found course job = true := by
  cases hstep with
  | work _ | count _ => exact .inl hphase
  | take _ _ | skip | start _ => exact nomatch hphase
  | look =>
    simp only at hphase
    split at hphase
    next hkept =>
      cases hphase
      exact .inr ⟨rfl, hkept⟩
    next => exact nomatch hphase

/-- A job waits since it was looked up and not found. -/
theorem Step.of_waiting (hstep : Step host found course i j) (hphase : j.phase = .waiting job) :
    i.phase = .waiting job ∨
      i.phase = .looking job ∧ i.run.isKept found course job = false := by
  cases hstep with
  | work _ | count _ => exact .inl hphase
  | take _ _ | skip | start _ => exact nomatch hphase
  | look =>
    simp only at hphase
    split at hphase
    next => exact nomatch hphase
    next hkept =>
      cases hphase
      exact .inr ⟨rfl, Bool.eq_false_iff.2 hkept⟩

/-- What the jobs share stays as it was, unless a request of one of them is answered. -/
theorem Step.toShared_eq (hstep : Step host found course i j) :
    j.run.toShared = i.run.toShared ∨
      ∃ job request, ∃ rest : request.Answer → Work (Except Failure Repository),
        ⟨job, .ask request rest⟩ ∈ i.run.running ∧
          j.run.toShared = (host.answer request i.run.toShared).2 := by
  cases hstep with
  | @work run next phase older younger job request rest hcons =>
    exact .inr ⟨job, request, rest, by simp [hcons], rfl⟩
  | count _ | look | skip => exact .inl rfl
  | take _ _ => exact .inl (Run.announce_toShared ..)
  | start _ => exact .inl (Run.launch_toShared ..)

/-- The templates that are kept stay those of the shelf, when the jobs ask for no others. -/
theorem Step.holds (hstep : Step host found course i j) {shelf : Shelf}
    (hholds : shelf.Holds i.run.kept)
    (hon : ∀ job request, ∀ rest : request.Answer → Work (Except Failure Repository),
      ⟨job, .ask request rest⟩ ∈ i.run.running → request.IsOn shelf) :
    shelf.Holds j.run.kept := by
  rcases hstep.toShared_eq with hsame | ⟨job, request, rest, hmem, hsame⟩
  · rw [hsame]
    exact hholds
  · rw [hsame]
    exact Host.holds_answer hholds (hon job request rest hmem)

/-- What is so of the jobs in the making is so after a step, if it lasts, and is so of a job whose
    request is answered and of one that starts. -/
theorem Step.forall_running {P Q : Running → Prop} (hstep : Step host found course i j)
    (h : ∀ r ∈ i.run.running, P r) (hstays : ∀ r, P r → Q r)
    (hanswered : ∀ (job : Job) (request : Request)
      (rest : request.Answer → Work (Except Failure Repository)), P ⟨job, .ask request rest⟩ →
      j.run.toShared = (host.answer request i.run.toShared).2 →
      Q ⟨job, rest (host.answer request i.run.toShared).1⟩)
    (hstarts : ∀ job, i.phase = .waiting job → Q ⟨job, course.work job⟩) :
    ∀ r ∈ j.run.running, Q r := by
  have hold : ∀ r ∈ i.run.running, Q r := fun r hr => hstays r (h r hr)
  cases hstep with
  | @work run next phase older younger job request rest hcons =>
    simp only [hcons, List.forall_mem_append, List.forall_mem_cons] at h hold ⊢
    exact ⟨hold.1, hanswered job request rest h.2.1 rfl, hold.2.2⟩
  | count hcons =>
    simp only [hcons, Run.record_running, List.forall_mem_append, List.forall_mem_cons] at hold ⊢
    exact ⟨hold.1, hold.2.2⟩
  | take _ _ => rwa [Run.announce_running]
  | look | skip => exact hold
  | @start run next job _ =>
    simp only [Run.launch_running, List.forall_mem_append, List.forall_mem_singleton]
    exact ⟨hold, hstarts job rfl⟩

end Interleaving

end CorpusForge
