import CorpusForge.Run.Basic

/-!
# Runs in any order

Several repositories are in the making side by side, and nothing says whose request is answered
next, or which of them is done first. An *interleaving* is a run whose jobs are worked on request
by request, in any order, and counted in any order, while slots are taken: a slot is announced, it
is looked up whether its directory exists, and it is skipped, or its job waits for a place and
starts. Only one job waits at a time, and no slot is taken while the repositories made and in the
making may be enough.

* `Interleaving.Step`: what may happen next;
* `Interleaving.Reachable`: what a run may come to;
* `Interleaving.IsRun`: how a run may end;
* `Interleaving.Ends`: how every run must end.
-/

namespace CorpusForge

/-- What a run is doing about its slots. -/
inductive Phase where
  /-- The next slot may be taken. -/
  | free
  /-- It is being looked up whether the directory of a job exists. -/
  | looking (job : Job)
  /-- The directory of a job exists and is to be kept. -/
  | keeping (job : Job)
  /-- A job waits for its place. -/
  | waiting (job : Job)

/-- The job that a slot was taken for and that has not started. -/
def Phase.job? : Phase → Option Job
  | free => none
  | looking job | keeping job | waiting job => some job

/-- A run whose jobs end in any order. -/
structure Interleaving (σ : Type) where
  run : Run σ
  /-- The number of the next slot. -/
  next : Nat
  phase : Phase

namespace Interleaving

variable {σ : Type}

/-- A run that has not taken a slot. -/
def begin (course : Course) (state : σ) : Interleaving σ := ⟨.begin course state, 0, .free⟩

/-- What may happen next. -/
inductive Step (host : Host σ) (found : String → σ → Bool) (course : Course) :
    Interleaving σ → Interleaving σ → Prop where
  /-- A request of a job is answered, whichever job it is. -/
  | work {run : Run σ} {next : Nat} {phase : Phase} {older younger : List Running} {job : Job}
      {request : Request} {rest : request.Answer → Work (Except Failure Repository)}
      (hrunning : run.running = older ++ ⟨job, .ask request rest⟩ :: younger) :
      Step host found course ⟨run, next, phase⟩
        ⟨{ run with
            toShared := (host.answer request run.toShared).2
            running := older ++ ⟨job, rest (host.answer request run.toShared).1⟩ :: younger },
          next, phase⟩
  /-- A job whose work is done is counted, whichever it is. -/
  | count {run : Run σ} {next : Nat} {phase : Phase} {older younger : List Running} {job : Job}
      {outcome : Except Failure Repository}
      (hrunning : run.running = older ++ ⟨job, .done outcome⟩ :: younger) :
      Step host found course ⟨run, next, phase⟩
        ⟨{ run with running := older ++ younger }.record job outcome, next, phase⟩
  /-- The next slot is taken. -/
  | take {run : Run σ} {next : Nat} {slot : Slot}
      (hslot : Quota.slot? course.config.categories next = some slot)
      (hopen : run.mayBeEnough course = false) :
      Step host found course ⟨run, next, .free⟩
        ⟨run.announce course slot, next + 1, .looking (run.nextJob slot)⟩
  /-- The directory of a job is looked up. -/
  | look {run : Run σ} {next : Nat} {job : Job} :
      Step host found course ⟨run, next, .looking job⟩
        ⟨run, next, if run.isKept found course job then .keeping job else .waiting job⟩
  /-- A slot is skipped. -/
  | skip {run : Run σ} {next : Nat} {job : Job} :
      Step host found course ⟨run, next, .keeping job⟩ ⟨run.skip course job, next, .free⟩
  /-- A job starts in a place that is free. -/
  | start {run : Run σ} {next : Nat} {job : Job}
      (hplace : course.config.concurrency.atMost run.running.length = false) :
      Step host found course ⟨run, next, .waiting job⟩ ⟨run.launch course job, next, .free⟩

/-- What a run may come to. -/
inductive Reachable (host : Host σ) (found : String → σ → Bool) (course : Course) (state : σ) :
    Interleaving σ → Prop where
  | begin : Reachable host found course state (begin course state)
  | step {i j : Interleaving σ} (hi : Reachable host found course state i)
      (hstep : Step host found course i j) : Reachable host found course state j

/-- No slot is to be taken any more, and nothing is in the making. -/
def IsOver (course : Course) (i : Interleaving σ) : Prop :=
  i.phase = .free ∧ i.run.running = [] ∧
    (i.run.isEnough course = true ∨ Quota.slot? course.config.categories i.next = none)

/-- Every run ends, from here on, and with what `P` says. -/
inductive Ends (host : Host σ) (found : String → σ → Bool) (course : Course)
    (P : Interleaving σ → Prop) : Interleaving σ → Prop where
  /-- The run is over. -/
  | over {i : Interleaving σ} (hover : i.IsOver course) (hP : P i) : Ends host found course P i
  /-- Something happens next, and whatever it is, every run ends from there on. -/
  | step {i : Interleaving σ} (hsome : ∃ j, Step host found course i j)
      (hall : ∀ j, Step host found course i j → Ends host found course P j) :
      Ends host found course P i

/-- A run may end so, with the events that lead to it. -/
def IsRun (host : Host σ) (found : String → σ → Bool) (course : Course) (state : σ)
    (run : Run σ) : Prop :=
  ∃ i : Interleaving σ, Reachable host found course state i ∧ i.IsOver course ∧
    run = i.run.emit (.runCompleted (i.run.summary course))

end Interleaving

end CorpusForge
