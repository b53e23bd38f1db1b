import CorpusForge.Run.Basic

/-!
# The walk of a run

The walk takes the slots in order, and does the work of a job when it starts. It counts the oldest
job when a new one has to wait for its place, and all of them when those in the making may be
enough. Before a directory is skipped, the jobs that needed no time are counted.

* `Run.walk`: the walk over the slots;
* `Run.generate`: a whole run.
-/

namespace CorpusForge.Run

variable {σ : Type}

/-- Counts a job whose work is done. -/
def count (done : Running) (run : Run σ) : Run σ :=
  match done.work with
  | .done outcome => run.record done.job outcome
  | .ask _ _ => run

/-- Starts a job and does its work at once. -/
def start (host : Host σ) (course : Course) (job : Job) (run : Run σ) : Run σ :=
  let run := run.tellStart course job
  let (outcome, s) := (course.work job).perform host run.toShared
  { run with toShared := s }.join ⟨job, .done outcome⟩

/-- Settles the jobs of a list, in order. -/
def settle (done : List Running) (run : Run σ) : Run σ :=
  done.foldl (fun run job => run.count job) run

/-- Settles all jobs. -/
def settleAll (run : Run σ) : Run σ := { run with running := [] }.settle run.running

/-- Settles the jobs that needed no time. -/
def settlePrompt (run : Run σ) : Run σ :=
  { run with running := run.running.filter fun r => !r.isPrompt }.settle
    (run.running.filter Running.isPrompt)

/-- Settles the oldest job. -/
def settleOldest (run : Run σ) : Run σ :=
  match run.running with
  | [] => run
  | oldest :: rest => { run with running := rest }.count oldest

/-- Before another slot is taken, the jobs that may be enough are waited for. -/
def await (course : Course) (run : Run σ) : Run σ :=
  if run.mayBeEnough course then run.settleAll else run

/-- Starts a job when there is a place for it, and otherwise when the oldest job is settled. -/
def enqueue (host : Host σ) (course : Course) (job : Job) (run : Run σ) : Run σ :=
  if course.config.concurrency.atMost run.running.length then
    run.settleOldest.start host course job
  else run.start host course job

/-- Takes a slot: its repository is skipped when it is to be kept, and made otherwise. -/
def take (host : Host σ) (found : String → σ → Bool) (course : Course) (slot : Slot)
    (run : Run σ) : Run σ :=
  let job := run.nextJob slot
  let run := run.announce course slot
  let run := if course.config.skipExisting then run.settlePrompt else run
  if run.isKept found course job then run.skip course job else run.enqueue host course job

/-- The walk over the slots from number `k` on, of which `left` are left. -/
def walk (host : Host σ) (found : String → σ → Bool) (course : Course) :
    (left : Nat) → (k : Nat) → Run σ → Run σ
  | 0, _, run => run
  | left + 1, k, run =>
    let run := run.await course
    if run.isEnough course then run
    else
      match Quota.slot? course.config.categories k with
      | none => run
      | some slot => walk host found course left (k + 1) (run.take host found course slot)

/-- A whole run: the walk, the last jobs, and the summary. -/
def generate (host : Host σ) (found : String → σ → Bool) (course : Course) (state : σ) :
    Run σ :=
  let run := (walk host found course (Quota.size course.config.categories) 0
    (begin course state)).settleAll
  run.emit (.runCompleted (run.summary course))

end CorpusForge.Run
