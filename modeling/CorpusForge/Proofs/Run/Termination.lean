import Mathlib.Logic.Hydra
import Mathlib.Order.RelClasses
import Mathlib.Tactic.Abel
import CorpusForge.Proofs.Number.Whole
import CorpusForge.Run.Interleaving

/-!
# Every run ends

Whatever the order of the steps, a run comes to its end. A slot that is taken is not taken again,
and a job goes through its phases once; in between, the answer to a request leaves less work for one
of the jobs (`Work.Rest`). Neither can go on forever (`wellFounded_step`). And as long as a run is
not over, something can happen: when a job has to wait for a place, another one is in the making
(`exists_step`).

* `Interleaving.ends_of_reachable`: every run ends with what holds wherever a run may be over.
-/

namespace CorpusForge

/-! ### Work -/

/-- What is left of a work after the answer to its first request. -/
inductive Work.Rest {α : Type} : Work α → Work α → Prop where
  | answered (request : Request) (next : request.Answer → Work α) (answer : request.Answer) :
      Rest (next answer) (.ask request next)

theorem Work.wellFounded_rest {α : Type} : WellFounded (@Work.Rest α) := by
  refine ⟨fun work => ?_⟩
  induction work with
  | done result => exact ⟨_, fun _ h => nomatch h⟩
  | ask request next ih =>
    refine ⟨_, fun _ h => ?_⟩
    cases h with
    | answered _ _ answer => exact ih answer

namespace Interleaving

variable {σ : Type} {host : Host σ} {found : String → σ → Bool} {course : Course} {state : σ}
  {i j : Interleaving σ}

/-! ### Termination -/

/-- How far a job is from its start, or from being skipped. -/
def rank : Phase → Nat
  | .free => 0
  | .keeping _ | .waiting _ => 1
  | .looking _ => 2

/-- The moves that are left: those of the job that was taken, and three for each further slot. -/
def movesLeft (course : Course) (i : Interleaving σ) : Nat :=
  3 * (Quota.size course.config.categories - i.next) + rank i.phase

/-- The works that are left. -/
def works (i : Interleaving σ) : Multiset (Work (Except Failure Repository)) :=
  (i.run.running.map Running.work : List _)

/-- A step takes a move away, or else it takes work away. -/
theorem movesLeft_or_works_of_step (h : Step host found course i j) :
    j.movesLeft course < i.movesLeft course ∨
      (j.movesLeft course = i.movesLeft course ∧
        Relation.CutExpand Work.Rest j.works i.works) := by
  cases h with
  -- one work makes way for what is left of it
  | @work run next phase older younger job request rest hrunning =>
    refine .inr ⟨rfl, {rest (host.answer request run.toShared).1}, .ask request rest, ?_, ?_⟩
    · intro left hleft
      rw [Multiset.mem_singleton.1 hleft]
      exact .answered request rest _
    · simp only [works, hrunning, List.map_append, List.map_cons, ← Multiset.coe_add,
        ← Multiset.cons_coe, ← Multiset.singleton_add]
      abel
  -- a work that is done makes way for nothing
  | @count run next phase older younger job outcome hrunning =>
    refine .inr ⟨rfl, 0, .done outcome, fun _ h => absurd h (Multiset.notMem_zero _), ?_⟩
    simp only [works, hrunning, Run.record_running, List.map_append, List.map_cons,
      ← Multiset.coe_add, ← Multiset.cons_coe, ← Multiset.singleton_add]
    abel
  -- a slot that is taken is worth three moves, of which the look is the first
  | @take run next slot hslot _ =>
    have hnext : next < Quota.size course.config.categories := by
      rw [← Quota.length_slots]
      rw [Quota.slot?_eq] at hslot
      exact (List.getElem?_eq_some_iff.1 hslot).1
    refine .inl ?_
    simp only [movesLeft, rank]
    omega
  | look =>
    refine .inl ?_
    simp only [movesLeft]
    split <;> simp [rank]
  | skip => exact .inl (by simp [movesLeft, rank])
  | start => exact .inl (by simp [movesLeft, rank])

/-- No run goes on forever. -/
theorem wellFounded_step (host : Host σ) (found : String → σ → Bool) (course : Course) :
    WellFounded fun j i => Step host found course i j := by
  have hlex := WellFounded.prod_lex Nat.lt_wfRel.wf
    (@Work.wellFounded_rest (Except Failure Repository)).cutExpand
  refine Subrelation.wf ?_ (InvImage.wf (fun i => (movesLeft course i, i.works)) hlex)
  intro j i h
  rcases movesLeft_or_works_of_step h with hmoves | ⟨hmoves, hworks⟩
  · exact Prod.Lex.left _ _ hmoves
  · simp only [InvImage, hmoves]
    exact Prod.Lex.right _ hworks

/-! ### Progress -/

/-- A job in the making has a request to be answered, or its work is done. -/
theorem exists_step_of_running {run : Run σ} {next : Nat} {phase : Phase} (h : run.running ≠ []) :
    ∃ j, Step host found course ⟨run, next, phase⟩ j := by
  obtain ⟨⟨job, work⟩, younger, hrunning⟩ := List.exists_cons_of_ne_nil h
  cases work with
  | done outcome => exact ⟨_, .count (hrunning.trans (List.nil_append _).symm)⟩
  | ask request rest => exact ⟨_, .work (hrunning.trans (List.nil_append _).symm)⟩

/-- Something can happen in a run that is not over. -/
theorem exists_step (hplace : course.config.concurrency.lt 1 = false) (h : ¬i.IsOver course) :
    ∃ j, Step host found course i j := by
  obtain ⟨run, next, phase⟩ := i
  by_cases hrunning : run.running = []
  · cases phase with
    | looking job => exact ⟨_, .look⟩
    | keeping job => exact ⟨_, .skip⟩
    | waiting job =>
      -- with nothing in the making, the first place is free
      refine ⟨_, .start ?_⟩
      rw [hrunning]
      exact Number.atMost_zero_of_not_lt_one hplace
    | free =>
      have hopen : run.isEnough course = false := by
        by_contra henough
        exact h ⟨rfl, hrunning, .inl (by simpa using henough)⟩
      cases hslot : Quota.slot? course.config.categories next with
      | none => exact absurd ⟨rfl, hrunning, .inr hslot⟩ h
      | some slot =>
        -- without jobs in the making, what may be enough is enough
        refine ⟨_, .take hslot ?_⟩
        simpa [Run.mayBeEnough, Run.isEnough, hrunning] using hopen
  · exact exists_step_of_running hrunning

/-- Nothing can happen in a run that is over. -/
theorem IsOver.not_step (hover : i.IsOver course) : ¬Step host found course i j := by
  obtain ⟨hphase, hrunning, hend⟩ := hover
  intro h
  cases h with
  | work hcons | count hcons => exact absurd (hcons.symm.trans hrunning) (by simp)
  | take hslot hopen =>
    rcases hend with henough | hnone
    · simp_all [Run.mayBeEnough, Run.isEnough]
    · exact absurd (hslot.symm.trans hnone) (by simp)
  | look | skip | start => exact nomatch hphase

/-- Every run from a point that can be reached ends, and what holds wherever a run may be over
    holds then. -/
theorem ends_of_reachable (hplace : course.config.concurrency.lt 1 = false)
    {P : Interleaving σ → Prop}
    (hP : ∀ j, Reachable host found course state j → j.IsOver course → P j)
    (hi : Reachable host found course state i) : Ends host found course P i := by
  induction i using (wellFounded_step host found course).induction with
  | _ i ih =>
    by_cases hover : i.IsOver course
    · exact .over hover (hP i hi hover)
    · exact .step (exists_step hplace hover) fun j hstep => ih j hstep (.step hi hstep)

end Interleaving

end CorpusForge
