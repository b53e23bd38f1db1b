import CorpusForge.Cli.Command
import CorpusForge.Cli.Report
import CorpusForge.Config.File

/-!
# The program

The program reads its arguments and a configuration file, carries out one command, and says what it
prints and how it exits: zero when all went well, two for a wrong configuration, one for any other
failure. It is a function of its surroundings; the files and histories that it makes are the
changed state of its host.

* `Surroundings`: what the program finds;
* `Outcome`: what it leaves;
* `Program.run`: the program.
-/

namespace CorpusForge

/-- What the program finds when it starts. -/
structure Surroundings (σ : Type) where
  cwd : String
  env : Environment
  machine : Machine
  host : Host σ
  state : σ
  /-- Something stands at a path. -/
  found : String → σ → Bool
  /-- The number of commits of the repository at a path. -/
  commits : String → Option Number
  /-- The time. -/
  now : Timestamp
  /-- The milliseconds that have passed since then. -/
  elapsed : σ → Number
  /-- The seed of a run for which none is chosen. -/
  freshSeed : String

/-- What the program leaves: how it exits, the lines it prints, and its host. -/
structure Outcome (σ : Type) where
  exit : Nat := 0
  printed : List String := []
  complained : List String := []
  state : σ

namespace Outcome

variable {σ : Type}

/-- The text on the standard output. -/
def stdout (o : Outcome σ) : String := Text.unlines o.printed

/-- The text on the standard error output. -/
def stderr (o : Outcome σ) : String := Text.unlines o.complained

end Outcome

namespace Program

variable {σ : Type}

def version : String := "0.1.0"

/-- The help of the program. -/
def usage : List String :=
  ["Usage: reposynth [options] [command]", "", "Generate corpora of synthetic git repositories",
   "", "Commands:",
   "  generate [options]  Generate synthetic repositories into the output directory",
   "  plan [options]      Preview the repositories the next run would generate",
   "  status [options]    Show corpus generation progress",
   "  doctor [options]    Check that this machine can generate a corpus"]

/-- The exit code for what was thrown. -/
def exitCode : Mishap → Nat
  | .failure failure => if failure.isConfig then 2 else 1
  | _ => 1

/-- The end of a command that could not be carried out. -/
def abort (state : σ) (mishap : Mishap) : Outcome σ where
  exit := exitCode mishap
  complained := [mishap.message]
  state := state

/-- The end of a reading of arguments that gave no command. -/
def halt (state : σ) : Stop → Outcome σ
  | .version => { printed := [version], state }
  | .help _ => { printed := usage, state }
  | .noCommand => { exit := 1, complained := usage, state }
  | .misuse error => { exit := 1, complained := [error.message], state }

/-- The configuration in the file that the options name, and the warnings, which are told only on
    request. -/
def readConfig (s : Surroundings σ) (g : Globals) :
    Except Mishap (Option Config) × List String :=
  let loaded := ConfigFile.load s.machine.disk s.env s.cwd g.config
  (match loaded.config with
    | .ok config => .ok config
    | .error failure => .error (.failure failure),
   if g.verbose then loaded.warnings.map fun warning => "[reposynth] " ++ warning else [])

/-- The settings of a run on top of a configuration file. -/
def configure (s : Surroundings σ) (overrides : Overrides) (file : Option Config) :
    Except Mishap Config :=
  match overrides.apply s.env file with
  | .ok config => .ok config
  | .error failure => .error (.failure failure)

/-- What a command prints: the lines for readers, the plain form for machines, or nothing. -/
def print (g : Globals) (lines : List String) (value : Value) : List String :=
  if g.json then [Json.write value] else if g.quiet then [] else lines

/-- The seed that was chosen, as an option or in a configuration, or a fresh one. -/
def seedOf (s : Surroundings σ) (option : Option String) (configured : Option Seed) : String :=
  match option with
  | some seed => seed
  | none => (configured.map Seed.toText).getD s.freshSeed

/-- The settings that the `generate` command lays over a configuration. The seed is always one of
    them, so that the run and its report agree on it. -/
def overridesOf (seed : String) (o : GenerateOptions) : Overrides where
  outputDir := o.output.map .string
  targetCount := o.count.map .number
  startIndex := o.start.map .number
  seed := some (.string seed)
  concurrency := o.concurrency.map .number
  skipExisting := some (.bool o.skipExisting)
  faultProbability := o.faultProbability.map .number

/-- The run that the `generate` command asks for. -/
def produce (s : Surroundings σ) (o : GenerateOptions) (file : Option Config) :
    Except Mishap (Course × Run σ) := do
  let seed := seedOf s o.seed (file.bind Config.seed)
  let config ← configure s (overridesOf seed o) file
  match Course.of config ((config.seed.map Seed.toText).getD seed) s.cwd s.now .bundled with
  | .ok course => return (course, Run.generate s.host s.found course s.state)
  | .error refusal => .error (.refusal refusal)

/-- Generates repositories. The run fails when one of them does. -/
def generate (s : Surroundings σ) (g : Globals) (o : GenerateOptions) (file : Option Config) :
    Outcome σ :=
  match produce s o file with
  | .error mishap => abort s.state mishap
  | .ok (course, run) =>
    let summary := run.summary course
    let elapsed := s.elapsed run.host
    let lines := run.events.reverse.flatMap (Report.event g.verbose)
      ++ Report.summary (elapsed / 1000) summary
    { exit := if summary.tally.failed = 0 then 0 else 1
      printed := print g lines (Report.summaryValue elapsed summary)
      state := run.host }

def defaultPlanCount : Number := 20

/-- Previews the next repositories. -/
def plan (s : Surroundings σ) (g : Globals) (o : PlanOptions) (file : Option Config) :
    Outcome σ :=
  match configure s { startIndex := o.start.map .number } file with
  | .error mishap => abort s.state mishap
  | .ok config =>
    let seed := seedOf s o.seed config.seed
    match Plan.repositories config seed (o.count.getD defaultPlanCount) with
    | .error refusal => abort s.state (.refusal refusal)
    | .ok planned =>
      { printed := print g (Report.plan seed planned) (Report.planValue seed planned)
        state := s.state }

/-- The corpus that the `status` command looks at. -/
def corpusOf (o : StatusOptions) (file : Option Config) : String :=
  (o.output.orElse fun _ => file.map Config.outputDir).getD "./corpus"

/-- Shows the status of a corpus. -/
def status (s : Surroundings σ) (g : Globals) (o : StatusOptions) (file : Option Config) :
    Outcome σ :=
  let dir := corpusOf o file
  let target := (o.target.orElse fun _ => file.map Config.targetCount).getD
    CorpusStatus.defaultTarget
  match CorpusStatus.read s.machine.disk s.commits s.cwd dir target o.latest with
  | .error mishap => abort s.state mishap
  | .ok status =>
    { printed := print g (Report.status status) status.toValue, state := s.state }

/-- Checks the machine. -/
def doctor (s : Surroundings σ) (g : Globals) (o : DoctorOptions) : Outcome σ :=
  let checks := Check.all s.machine (Path.resolve s.cwd o.output)
  { exit := if Check.allPassed checks then 0 else 1
    printed := print { g with quiet := false } (Report.checks checks) (Report.checksValue checks)
    state := s.state }

/-- Carries out a command that needs the configuration file. -/
def withConfig (s : Surroundings σ) (g : Globals) (command : Option Config → Outcome σ) :
    Outcome σ :=
  let (file, warnings) := readConfig s g
  match file with
  | .error mishap => abort s.state mishap
  | .ok file =>
    let outcome := command file
    { outcome with complained := warnings ++ outcome.complained }

/-- Carries out a command. -/
def perform (s : Surroundings σ) (invocation : Invocation) : Outcome σ :=
  let g := invocation.globals
  match invocation.command with
  | .generate options => withConfig s g (generate s g options)
  | .plan options => withConfig s g (plan s g options)
  | .status options =>
    if g.quiet && !g.json then { state := s.state } else withConfig s g (status s g options)
  | .doctor options => doctor s g options

/-- The directory that a command looks into, as far as that can be told before it is carried out. -/
def directory? (s : Surroundings σ) (invocation : Invocation) : Option String :=
  match (readConfig s invocation.globals).1, invocation.command with
  | _, .doctor options => some options.output
  | .ok file, .status options => some (corpusOf options file)
  | .ok file, .generate options =>
    match configure s (overridesOf (seedOf s options.seed (file.bind Config.seed)) options) file with
    | .ok config => some config.outputDir
    | .error _ => none
  | _, _ => none

/-- The program with its arguments. -/
def run (s : Surroundings σ) (args : List String) : Outcome σ :=
  match Invocation.read args with
  | .ok invocation => perform s invocation
  | .error stop => halt s.state stop

end Program

end CorpusForge
