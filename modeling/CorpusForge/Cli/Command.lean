import CorpusForge.Cli.Flag
import CorpusForge.Status

/-!
# Commands

The program has four commands, each with options of its own; the global options may stand before
or behind the command.

* `Command`: a command with its settings;
* `Invocation.read`: the command that arguments ask for.
-/

namespace CorpusForge

/-- The settings that all commands share. -/
structure Globals where
  config : String := "reposynth.config.ts"
  verbose : Bool := false
  quiet : Bool := false
  json : Bool := false
  deriving DecidableEq, Repr

structure GenerateOptions where
  output : Option String := none
  count : Option Number := none
  start : Option Number := none
  seed : Option String := none
  concurrency : Option Number := none
  skipExisting : Bool := true
  faultProbability : Option Number := none
  deriving DecidableEq

structure PlanOptions where
  count : Option Number := none
  start : Option Number := none
  seed : Option String := none
  deriving DecidableEq

structure StatusOptions where
  output : Option String := none
  target : Option Number := none
  latest : Number := CorpusStatus.defaultLatest
  deriving DecidableEq

structure DoctorOptions where
  output : String := "./corpus"
  deriving DecidableEq, Repr

/-- A command with its settings. -/
inductive Command where
  | generate (options : GenerateOptions)
  | plan (options : PlanOptions)
  | status (options : StatusOptions)
  | doctor (options : DoctorOptions)
  deriving DecidableEq

/-! ### Options -/

/-- The global options. -/
def Globals.flags : List (Flag Globals) :=
  [{ long := "--version", short := some 'V', set := fun _ _ => .error .version },
   .text "--config" "path" fun path g => { g with config := path },
   .switch "--verbose" fun g => { g with verbose := true },
   .switch "--quiet" fun g => { g with quiet := true },
   .switch "--json" fun g => { g with json := true },
   .switch "--no-color" id]

def GenerateOptions.flags : List (Flag GenerateOptions) :=
  [.text "--output" "dir" fun dir o => { o with output := some dir },
   .number "--count" "n" Number.readInteger fun n o => { o with count := some n },
   .number "--start" "id" Number.readInteger fun n o => { o with start := some n },
   .text "--seed" "seed" fun seed o => { o with seed := some seed },
   .number "--concurrency" "n" Number.readInteger fun n o => { o with concurrency := some n },
   .switch "--no-skip-existing" fun o => { o with skipExisting := false },
   .number "--fault-probability" "p" Number.readProbability fun p o =>
     { o with faultProbability := some p }]

def PlanOptions.flags : List (Flag PlanOptions) :=
  [.number "--count" "n" Number.readInteger fun n o => { o with count := some n },
   .number "--start" "id" Number.readInteger fun n o => { o with start := some n },
   .text "--seed" "seed" fun seed o => { o with seed := some seed }]

def StatusOptions.flags : List (Flag StatusOptions) :=
  [.text "--output" "dir" fun dir o => { o with output := some dir },
   .number "--target" "n" Number.readInteger fun n o => { o with target := some n },
   .number "--latest" "n" Number.readInteger fun n o => { o with latest := n }]

def DoctorOptions.flags : List (Flag DoctorOptions) :=
  [.text "--output" "dir" fun dir o => { o with output := dir }]

/-! ### Reading -/

/-- A command and the settings that all commands share. -/
structure Invocation where
  globals : Globals
  command : Command
  deriving DecidableEq

namespace Invocation

/-- The words that name commands. -/
def commandNames : List String := ["generate", "plan", "status", "doctor", "help"]

/-- An argument that asks for help. -/
def asksHelp (arg : String) : Bool := arg = "-h" ∨ arg = "--help"

/-- The long options of a table, and the one for help. -/
def longNames {α : Type} (flags : List (Flag α)) : List String := flags.map Flag.long ++ ["--help"]

/-- The misuse of an option that nobody knows. Only long options are compared with known ones. -/
def unknownOption (given : String) (known : List String) : Stop :=
  .misuse (.unknownOption given
    (if Text.startsWith given.toList ['-', '-'] then similarTo given known else []))

/-- The settings of a command from the arguments that the global options leave. -/
def readOptions {α : Type} (name : String) (flags : List (Flag α)) (settings : α)
    (args : List String) : Except Stop α := do
  let a ← Flag.read flags settings args
  if a.unknown.any asksHelp then .error (.help (some name))
  else
    match a.unknown with
    | [] => .ok a.settings
    | given :: _ => .error (unknownOption given (longNames flags ++ longNames Globals.flags))

/-- The command with the given name. -/
def readCommand (name : String) (args : List String) : Except Stop Command :=
  match name with
  | "generate" => (readOptions name GenerateOptions.flags {} args).map .generate
  | "plan" => (readOptions name PlanOptions.flags {} args).map .plan
  | "status" => (readOptions name StatusOptions.flags {} args).map .status
  | "doctor" => (readOptions name DoctorOptions.flags {} args).map .doctor
  | _ =>
    if args.any asksHelp then .error (.help none)
    else .error (.misuse (.unknownCommand name (similarTo name commandNames)))

/-- The command that arguments ask for. -/
def read (args : List String) : Except Stop Invocation := do
  let a ← Flag.read Globals.flags {} args
  match a.operands, a.unknown with
  | "help" :: rest, _ => .error (.help rest.head?)
  | name :: _, unknown => (readCommand name unknown).map fun command => ⟨a.settings, command⟩
  | [], [] => .error .noCommand
  | [], given :: rest =>
    if (given :: rest).any asksHelp then .error (.help none)
    else .error (unknownOption given (longNames Globals.flags))

end Invocation

end CorpusForge
