import Mathlib.Logic.Relation
import CorpusForge.Proofs.Run.Termination
import CorpusForge.Run.Walk

/-!
# The walk is a run

The walk that the program takes is one of the runs in any order: what it does to a slot is a
sequence of steps, and it ends where a run is over.

* `Interleaving.steps_take`: a slot is taken step by step;
* `Interleaving.isRun_generate`: the walk is a run.
-/

namespace CorpusForge.Interleaving

open Relation

variable {σ : Type} {host : Host σ} {found : String → σ → Bool} {course : Course} {state : σ}
  {run : Run σ} {next : Nat} {phase : Phase}

/-- One step after the other. -/
abbrev Steps (host : Host σ) (found : String → σ → Bool) (course : Course) :
    Interleaving σ → Interleaving σ → Prop := ReflTransGen (Step host found course)

theorem Reachable.steps {i j : Interleaving σ} (hi : Reachable host found course state i)
    (h : Steps host found course i j) : Reachable host found course state j := by
  induction h with
  | refl => exact hi
  | tail _ hstep ih => exact ih.step hstep

/-! ### Counting -/

/-- Some of the jobs in the making, all of them done, are counted in their order. -/
theorem steps_settle (counted : Running → Bool) (older left : List Running)
    (hdone : ∀ r ∈ left, counted r = true → ∃ outcome, r.work = .done outcome) :
    Steps host found course ⟨{ run with running := older ++ left }, next, phase⟩
      ⟨{ run with running := older ++ left.filter fun r => !counted r }.settle
        (left.filter counted), next, phase⟩ := by
  -- on the jobs that are left, those that stay in the making going over to the older ones
  induction left generalizing run older with
  | nil => exact .refl
  | cons r left ih =>
    have hrest : ∀ r ∈ left, counted r = true → ∃ outcome, r.work = .done outcome :=
      fun r hr => hdone r (List.mem_cons_of_mem _ hr)
    cases hr : counted r with
    | false =>
      simpa [List.filter_cons, hr] using ih (older ++ [r]) hrest
    | true =>
      obtain ⟨job, work⟩ := r
      obtain ⟨outcome, hwork⟩ := hdone _ List.mem_cons_self hr
      obtain rfl : work = .done outcome := hwork
      simp only [List.filter_cons, hr, Bool.not_true, Bool.false_eq_true, if_true, if_false]
      exact .head (.count rfl) (@ih (run.record job outcome) older hrest)

/-- What the walk keeps: the jobs in the making are done, and each has its place. -/
structure IsPaced (course : Course) (run : Run σ) : Prop where
  done : ∀ r ∈ run.running, ∃ outcome, r.work = .done outcome
  place : course.config.concurrency.atMost (run.running.length - 1) = false

theorem running_settle (left : List Running) (run : Run σ) :
    (run.settle left).running = run.running := by
  induction left generalizing run with
  | nil => rfl
  | cons r left ih =>
    refine (ih (run.count r)).trans ?_
    rw [Run.count]
    split <;> rfl

theorem steps_settleAll (hpaced : IsPaced course run) :
    Steps host found course ⟨run, next, phase⟩ ⟨run.settleAll, next, phase⟩ := by
  have h := @steps_settle σ host found course run next phase (fun _ => true) [] run.running
    fun r hr _ => hpaced.done r hr
  simpa [Run.settleAll] using h

theorem running_settleAll (run : Run σ) : run.settleAll.running = [] := running_settle _ _

/-- With fewer jobs in the making, each still has its place. -/
theorem IsPaced.of_sublist {run' : Run σ} (h : IsPaced course run)
    (hless : run'.running.Sublist run.running) : IsPaced course run' :=
  ⟨fun r hr => h.done r (hless.subset hr),
    Number.atMost_eq_false_of_le (Nat.sub_le_sub_right hless.length_le 1) h.place⟩

theorem steps_settlePrompt (hpaced : IsPaced course run) :
    Steps host found course ⟨run, next, phase⟩ ⟨run.settlePrompt, next, phase⟩ :=
  steps_settle Running.isPrompt [] run.running fun r hr _ => hpaced.done r hr

theorem running_settlePrompt (run : Run σ) :
    run.settlePrompt.running = run.running.filter fun r => !r.isPrompt := running_settle _ _

/-- The oldest job is counted when there is no place for another one. -/
theorem steps_settleOldest (hpaced : IsPaced course run) :
    Steps host found course ⟨run, next, phase⟩ ⟨run.settleOldest, next, phase⟩ := by
  rw [Run.settleOldest]
  split
  next => exact .refl
  next oldest younger hrunning =>
    obtain ⟨job, work⟩ := oldest
    obtain ⟨outcome, hwork⟩ := hpaced.done ⟨job, work⟩ (by simp [hrunning])
    obtain rfl : work = .done outcome := hwork
    exact .single (.count (hrunning.trans (List.nil_append _).symm))

theorem running_settleOldest (run : Run σ) : run.settleOldest.running = run.running.tail := by
  rw [Run.settleOldest]
  split
  next hrunning => rw [hrunning]; rfl
  next oldest younger hrunning =>
    rw [hrunning]
    rw [Run.count]
    split <;> rfl

/-! ### Working -/

/-- All the work of the youngest job is done. -/
theorem steps_perform (older : List Running) (job : Job)
    (work : Work (Except Failure Repository)) :
    Steps host found course ⟨{ run with running := older ++ [⟨job, work⟩] }, next, phase⟩
      ⟨{ run with
          toShared := (work.perform host run.toShared).2
          running := older ++ [⟨job, .done (work.perform host run.toShared).1⟩] },
        next, phase⟩ := by
  induction work generalizing run with
  | done outcome => exact .refl
  | ask request rest ih =>
    refine .head (.work rfl) ?_
    exact @ih _ { run with toShared := (host.answer request run.toShared).2 }

/-- A job that waits starts, and its work is done at once. -/
theorem steps_start {job : Job}
    (hplace : course.config.concurrency.atMost run.running.length = false) :
    Steps host found course ⟨run, next, .waiting job⟩
      ⟨run.start host course job, next, .free⟩ := by
  refine .head (.start hplace) ?_
  exact @steps_perform σ host found course (run.tellStart course job) next .free
    (run.tellStart course job).running job (course.work job)

theorem running_start (job : Job) (run : Run σ) :
    (run.start host course job).running =
      run.running ++ [⟨job, .done ((course.work job).perform host run.toShared).1⟩] := by
  simp [Run.start, Run.join]

theorem IsPaced.start {job : Job} (hpaced : IsPaced course run)
    (hplace : course.config.concurrency.atMost run.running.length = false) :
    IsPaced course (run.start host course job) := by
  refine ⟨fun r hr => ?_, by simpa [running_start] using hplace⟩
  rw [running_start, List.mem_append, List.mem_singleton] at hr
  rcases hr with hold | rfl
  · exact hpaced.done r hold
  · exact ⟨_, rfl⟩

/-- When all places are taken, the oldest job leaves one. -/
theorem IsPaced.place_settleOldest (hpaced : IsPaced course run) :
    course.config.concurrency.atMost run.settleOldest.running.length = false := by
  rw [running_settleOldest, List.length_tail]
  exact hpaced.place

/-- A job that waits gets its place. -/
theorem steps_enqueue {job : Job} (hpaced : IsPaced course run) :
    Steps host found course ⟨run, next, .waiting job⟩
        ⟨run.enqueue host course job, next, .free⟩ ∧
      IsPaced course (run.enqueue host course job) := by
  rw [Run.enqueue]
  split
  next hfull =>
    have hplace := hpaced.place_settleOldest
    have hless : run.settleOldest.running.Sublist run.running := by
      rw [running_settleOldest]
      exact List.tail_sublist _
    exact ⟨(steps_settleOldest hpaced).trans (steps_start hplace),
      (hpaced.of_sublist hless).start hplace⟩
  next hfree =>
    have hplace : course.config.concurrency.atMost run.running.length = false := by
      simpa using hfree
    exact ⟨steps_start hplace, hpaced.start hplace⟩

/-! ### Walking -/

/-- A slot is taken step by step. -/
theorem steps_take {slot : Slot} (hpaced : IsPaced course run)
    (hslot : Quota.slot? course.config.categories next = some slot)
    (hopen : run.mayBeEnough course = false) :
    Steps host found course ⟨run, next, .free⟩
        ⟨run.take host found course slot, next + 1, .free⟩ ∧
      IsPaced course (run.take host found course slot) := by
  have htake : Steps host found course ⟨run, next, .free⟩
      ⟨run.announce course slot, next + 1, .looking (run.nextJob slot)⟩ :=
    .single (.take hslot hopen)
  have hannounced : IsPaced course (run.announce course slot) :=
    hpaced.of_sublist (by simp)
  -- what is counted before the look does not depend on what is found
  obtain ⟨looking, hlooking, hready, hdef⟩ : ∃ looking : Run σ,
      Steps host found course ⟨run.announce course slot, next + 1, .looking (run.nextJob slot)⟩
        ⟨looking, next + 1, .looking (run.nextJob slot)⟩ ∧
      IsPaced course looking ∧
      run.take host found course slot =
        if looking.isKept found course (run.nextJob slot) then
          looking.skip course (run.nextJob slot)
        else looking.enqueue host course (run.nextJob slot) := by
    rw [Run.take]
    split
    next hskip =>
      refine ⟨_, steps_settlePrompt hannounced, hannounced.of_sublist ?_, rfl⟩
      rw [running_settlePrompt]
      exact List.filter_sublist
    next hskip => exact ⟨_, .refl, hannounced, rfl⟩
  have hlook := @Step.look σ host found course looking (next + 1) (run.nextJob slot)
  rw [hdef]
  split
  next hkept =>
    rw [if_pos hkept] at hlook
    exact ⟨((htake.trans hlooking).tail hlook).tail .skip,
      hready.of_sublist (by simp)⟩
  next hkept =>
    rw [if_neg hkept] at hlook
    obtain ⟨henqueue, hthen⟩ := @steps_enqueue _ host found _ _ (next + 1) (run.nextJob slot) hready
    exact ⟨((htake.trans hlooking).tail hlook).trans henqueue, hthen⟩

theorem isEnough_eq_mayBeEnough (hrunning : run.running = []) :
    run.isEnough course = run.mayBeEnough course := by
  rw [Run.isEnough, Run.mayBeEnough, hrunning]
  rfl

/-- After waiting, nothing is in the making, or a slot may be taken. -/
theorem steps_await (hpaced : IsPaced course run) :
    Steps host found course ⟨run, next, .free⟩ ⟨run.await course, next, .free⟩ ∧
      IsPaced course (run.await course) ∧
      ((run.await course).running = [] ∨ (run.await course).mayBeEnough course = false) := by
  rw [Run.await]
  split
  next hmay =>
    refine ⟨steps_settleAll hpaced, hpaced.of_sublist ?_, .inl (running_settleAll run)⟩
    rw [running_settleAll]
    exact List.nil_sublist _
  next hmay => exact ⟨.refl, hpaced, .inr (by simpa using hmay)⟩

/-- The walk stops with enough repositories, when nothing is in the making, or at the last slot. -/
theorem steps_walk {left : Nat} (hpaced : IsPaced course run)
    (hleft : next + left = Quota.size course.config.categories) :
    ∃ last, Steps host found course ⟨run, next, .free⟩
        ⟨run.walk host found course left next, last, .free⟩ ∧
      IsPaced course (run.walk host found course left next) ∧
      ((run.walk host found course left next).isEnough course = true ∧
          (run.walk host found course left next).running = [] ∨
        Quota.slot? course.config.categories last = none) := by
  induction left generalizing run next with
  | zero =>
    refine ⟨next, .refl, hpaced, .inr ?_⟩
    rw [Quota.slot?_eq, List.getElem?_eq_none_iff, Quota.length_slots, ← hleft]
    exact Nat.le_refl _
  | succ left ih =>
    obtain ⟨hawait, hready, hidle⟩ := @steps_await _ host found _ _ next hpaced
    simp only [Run.walk]
    split
    next henough =>
      refine ⟨next, hawait, hready, .inl ⟨henough, ?_⟩⟩
      refine hidle.resolve_right fun hopen => ?_
      exact absurd (Number.atMost_mono (Nat.le_add_right _ _) henough)
        (by simpa [Run.mayBeEnough] using hopen)
    next hmore =>
      have hopen : (run.await course).mayBeEnough course = false := by
        refine hidle.elim (fun hrunning => ?_) id
        rw [← isEnough_eq_mayBeEnough hrunning]
        simpa using hmore
      split
      -- there is no such slot, or it is taken and the walk goes on from the one after it
      next hslot => exact ⟨next, hawait, hready, .inr hslot⟩
      next slot hslot =>
        obtain ⟨htake, hthen⟩ := @steps_take _ host found _ _ _ slot hready hslot hopen
        have hrest : next + 1 + left = Quota.size course.config.categories := by omega
        obtain ⟨last, hwalk, hend⟩ := ih hthen hrest
        exact ⟨last, (hawait.trans htake).trans hwalk, hend⟩

/-- The walk is one of the runs. -/
theorem isRun_generate (hplace : course.config.concurrency.lt 1 = false) :
    IsRun host found course state (.generate host found course state) := by
  have hbegin : IsPaced course (Run.begin course state) :=
    ⟨fun r hr => absurd hr List.not_mem_nil, Number.atMost_zero_of_not_lt_one hplace⟩
  obtain ⟨last, hwalk, hpaced, hend⟩ := @steps_walk σ host found course _ 0
    (Quota.size course.config.categories) hbegin (Nat.zero_add _)
  refine ⟨_, Reachable.begin.steps (hwalk.trans (steps_settleAll hpaced)),
    ⟨rfl, running_settleAll _, hend.imp_left fun ⟨henough, hrunning⟩ => ?_⟩, rfl⟩
  rw [Run.settleAll, hrunning]
  exact henough

end CorpusForge.Interleaving
