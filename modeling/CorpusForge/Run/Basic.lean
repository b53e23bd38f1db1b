import CorpusForge.Run.Tally
import CorpusForge.Selection

/-!
# Runs

A run walks the slots of the quota and makes a repository for each, until enough of them exist or
the slots run out. Every slot takes an index, whether its repository is made, fails, or is skipped
because its directory exists already; a failed one does not count.

Up to `concurrency` repositories are in the making at a time. A run is a machine: it announces a
slot, skips it or starts a job for it, and counts jobs whose work is done. The moves are defined
here; `CorpusForge.Run.Walk` is the walk that the program takes, and
`CorpusForge.Run.Interleaving` says what may happen in any order.

* `Course.work`: the work of a job;
* `Run.announce`, `Run.skip`, `Run.launch`, `Run.record`: the moves;
* `Run.isKept`: when a slot is skipped;
* `Run.isEnough`, `Run.mayBeEnough`: when no further slot is taken.
-/

namespace CorpusForge

/-- The fixed settings of a run. -/
structure Course where
  config : Config
  seed : String
  outputDir : String
  selector : Selector
  workshop : Workshop

/-- The directory of a job's repository. -/
def Course.path (course : Course) (job : Job) : String := Path.join [course.outputDir, job.name]

/-- The specification of a job, and the generator after it was drawn. -/
def Course.drawSpec (course : Course) (job : Job) : Except Refusal Spec × Gen :=
  (course.selector.select job.slot job.index).run (.ofRepository course.seed job.index)

/-- The work of a job. A failure means that no specification could be drawn. -/
def Course.work (course : Course) (job : Job) : Work (Except Failure Repository) :=
  match course.drawSpec job with
  | (.error refusal, _) => pure (.error (Mishap.refusal refusal).normalize)
  | (.ok spec, gen) => do
    let (repository, _) ← Repository.work course.workshop spec
      (Path.join [course.outputDir, spec.name]) { gen }
    return .ok repository

/-- A job in the making: what is left of its work. -/
structure Running where
  job : Job
  work : Work (Except Failure Repository)

/-- A job that ended before its first directory was made. It needs no time. -/
def Running.isPrompt (r : Running) : Bool :=
  match r.work with
  | .done (.error _) => true
  | .done (.ok repository) => repository.archetype.isNone
  | .ask _ _ => false

/-- A run under way. -/
structure Run (σ : Type) extends Shared σ where
  tally : Tally
  /-- The jobs in the making, the oldest first. -/
  running : List Running := []
  /-- The events so far, the last one first. -/
  events : List Event := []

/-- The event that ends a job. -/
def Job.ending (job : Job) : Except Failure Repository → Event
  | .error failure => .repositoryFailed job.index job.name failure
  | .ok repository =>
    match repository.status with
    | .failed =>
      .repositoryFailed job.index repository.spec.name
        (repository.error.getD (.ofException "Repository generation failed"))
    | _ => .repositoryCompleted job.index repository

namespace Run

variable {σ : Type}

/-- Tells an event. -/
def emit (run : Run σ) (event : Event) : Run σ := { run with events := event :: run.events }

/-- The job for the slot that comes next. -/
def nextJob (slot : Slot) (run : Run σ) : Job :=
  ⟨slot, run.tally.nextIndex, repositoryName run.tally.nextIndex slot.template⟩

/-- Takes the index of a slot. The first slot of a category announces the category. -/
def announce (course : Course) (slot : Slot) (run : Run σ) : Run σ :=
  let run := { run with tally := { run.tally with nextIndex := run.tally.nextIndex.next } }
  if slot.ordinal = 0 then
    run.emit (.categoryStarted slot (Quota.announced course.config.categories slot.category))
  else run

/-- Counts a slot whose directory exists. -/
def skip (course : Course) (job : Job) (run : Run σ) : Run σ :=
  { run with tally := { run.tally with skipped := run.tally.skipped + 1 } }.emit
    (.repositorySkipped job.index job.name (course.path job))

/-- Tells that a job starts, when its specification could be drawn. -/
def tellStart (course : Course) (job : Job) (run : Run σ) : Run σ :=
  match course.drawSpec job with
  | (.ok spec, _) => run.emit (.repositoryStarted job.index spec)
  | (.error _, _) => run

/-- Adds a job to those in the making. -/
def join (running : Running) (run : Run σ) : Run σ :=
  { run with running := run.running ++ [running] }

/-- Starts a job, with all its work left. -/
def launch (course : Course) (job : Job) (run : Run σ) : Run σ :=
  (run.tellStart course job).join ⟨job, course.work job⟩

/-- Counts a job by its outcome. -/
def record (job : Job) (outcome : Except Failure Repository) (run : Run σ) : Run σ :=
  { run with tally := run.tally.countOutcome job outcome }.emit (job.ending outcome)

/-! ### What the moves change -/

@[simp] theorem emit_tally (run : Run σ) (event : Event) : (run.emit event).tally = run.tally := rfl

@[simp] theorem emit_running (run : Run σ) (event : Event) :
    (run.emit event).running = run.running := rfl

@[simp] theorem emit_toShared (run : Run σ) (event : Event) :
    (run.emit event).toShared = run.toShared := rfl

@[simp] theorem announce_tally (course : Course) (slot : Slot) (run : Run σ) :
    (run.announce course slot).tally =
      { run.tally with nextIndex := run.tally.nextIndex.next } := by
  rw [announce]
  split <;> rfl

@[simp] theorem announce_running (course : Course) (slot : Slot) (run : Run σ) :
    (run.announce course slot).running = run.running := by
  rw [announce]
  split <;> rfl

@[simp] theorem announce_toShared (course : Course) (slot : Slot) (run : Run σ) :
    (run.announce course slot).toShared = run.toShared := by
  rw [announce]
  split <;> rfl

@[simp] theorem skip_tally (course : Course) (job : Job) (run : Run σ) :
    (run.skip course job).tally = { run.tally with skipped := run.tally.skipped + 1 } := rfl

@[simp] theorem skip_running (course : Course) (job : Job) (run : Run σ) :
    (run.skip course job).running = run.running := rfl

@[simp] theorem skip_toShared (course : Course) (job : Job) (run : Run σ) :
    (run.skip course job).toShared = run.toShared := rfl

@[simp] theorem tellStart_tally (course : Course) (job : Job) (run : Run σ) :
    (run.tellStart course job).tally = run.tally := by
  rw [tellStart]
  split <;> rfl

@[simp] theorem tellStart_running (course : Course) (job : Job) (run : Run σ) :
    (run.tellStart course job).running = run.running := by
  rw [tellStart]
  split <;> rfl

@[simp] theorem tellStart_toShared (course : Course) (job : Job) (run : Run σ) :
    (run.tellStart course job).toShared = run.toShared := by
  rw [tellStart]
  split <;> rfl

@[simp] theorem launch_tally (course : Course) (job : Job) (run : Run σ) :
    (run.launch course job).tally = run.tally := tellStart_tally course job run

@[simp] theorem launch_running (course : Course) (job : Job) (run : Run σ) :
    (run.launch course job).running = run.running ++ [⟨job, course.work job⟩] :=
  congrArg (· ++ [_]) (tellStart_running course job run)

@[simp] theorem launch_toShared (course : Course) (job : Job) (run : Run σ) :
    (run.launch course job).toShared = run.toShared := tellStart_toShared course job run

@[simp] theorem record_tally (job : Job) (outcome : Except Failure Repository) (run : Run σ) :
    (run.record job outcome).tally = run.tally.countOutcome job outcome := rfl

@[simp] theorem record_running (job : Job) (outcome : Except Failure Repository) (run : Run σ) :
    (run.record job outcome).running = run.running := rfl

@[simp] theorem record_toShared (job : Job) (outcome : Except Failure Repository) (run : Run σ) :
    (run.record job outcome).toShared = run.toShared := rfl

/-! ### When no further slot is taken -/

/-- A slot is to be skipped: its directory exists, and existing ones are to be kept. -/
def isKept (found : String → σ → Bool) (course : Course) (job : Job) (run : Run σ) : Bool :=
  course.config.skipExisting && found (course.path job) run.host

/-- Enough repositories exist. -/
def isEnough (course : Course) (run : Run σ) : Bool :=
  course.config.targetCount.atMost run.tally.produced

/-- Enough repositories exist if those in the making turn out well. -/
def mayBeEnough (course : Course) (run : Run σ) : Bool :=
  course.config.targetCount.atMost (run.tally.produced + run.running.length)

/-- The summary of a run. -/
def summary (course : Course) (run : Run σ) : Summary where
  seed := course.seed
  outputDir := course.outputDir
  startIndex := course.config.startIndex
  targetCount := course.config.targetCount
  tally := run.tally

/-- A run that has not taken a slot. -/
def begin (course : Course) (host : σ) : Run σ where
  host := host
  tally := { nextIndex := course.config.startIndex }
  events := [.runStarted course.seed course.config.targetCount course.outputDir]

end Run

/-- The course of a run with a configuration. At least one repository must have a place in the
    making. All repositories are made at one time and from one shelf: `now` is the time of the whole
    run, and `shelf` is what its templates hold all the while. -/
def Course.of (config : Config) (seed cwd : String) (now : Timestamp) (shelf : Shelf) :
    Except Refusal Course := do
  let selector ← Selector.ofConfig config
  if config.concurrency.lt 1 then throw (.noPlace config.concurrency)
  return {
    config, seed, selector
    outputDir := Path.resolve cwd config.outputDir
    workshop :=
      { languages := config.languages, timeline := config.timeline
        faultInjection := config.faultInjection, now, shelf } }

end CorpusForge
