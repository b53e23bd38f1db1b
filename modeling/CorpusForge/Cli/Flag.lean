import CorpusForge.Number.Literal
import CorpusForge.Text.Similar

/-!
# Options

A command has settings, and its options fill them. Arguments are read from left to right: an option
of the command is taken, with its value if it has one, and everything else is kept in order. From
the first unknown option on, what is not taken is kept apart, for it may belong to another command.
Two dashes end the options.

* `Flag`: an option; `Flag.read`: the reading of arguments;
* `Stop`: what ends the reading early;
* `UsageError.message`: the wording of a misuse.
-/

namespace CorpusForge

/-- A misuse of the command line. -/
inductive UsageError where
  | unknownOption (given : String) (similar : List String)
  | unknownCommand (given : String) (similar : List String)
  /-- An option, as it is spelled in the help, lacks its value. -/
  | missingArgument (option : String)
  | badNumber (defect : NumberDefect)
  deriving DecidableEq, Repr

namespace UsageError

/-- The line that asks whether a similar word was meant. -/
def question : List String → String
  | [] => ""
  | [word] => s!"\n(Did you mean {word}?)"
  | words => "\n(Did you mean one of " ++ Text.join ", " words ++ "?)"

/-- The wording of a misuse. -/
def message : UsageError → String
  | unknownOption given similar => s!"error: unknown option '{given}'" ++ question similar
  | unknownCommand given similar => s!"error: unknown command '{given}'" ++ question similar
  | missingArgument option => s!"error: option '{option}' argument missing"
  | badNumber defect => defect.message

end UsageError

/-- Why the reading of arguments ends before there is a command to carry out. -/
inductive Stop where
  | version
  /-- The help of a command or of the whole program is asked for. -/
  | help (command : Option String)
  | noCommand
  | misuse (error : UsageError)
  deriving DecidableEq, Repr

/-- An option that fills settings of type `α`. -/
structure Flag (α : Type) where
  long : String
  short : Option Char := none
  /-- The name of the value, when the option has one. -/
  argument : Option String := none
  /-- The settings with the value taken over. -/
  set : String → α → Except Stop α

/-- What arguments leave when the options of a command are taken. -/
structure Arguments (α : Type) where
  settings : α
  operands : List String := []
  /-- The first unknown option and what follows it. -/
  unknown : List String := []

/-- An argument that looks like an option. -/
def isDashed : List Char → Bool
  | '-' :: _ :: _ => true
  | _ => false

namespace Arguments

variable {α : Type}

/-- Keeps arguments where they belong. -/
def keep (given : List (List Char)) (a : Arguments α) : Arguments α :=
  let words := given.map String.ofList
  if a.unknown.isEmpty then { a with operands := a.operands ++ words }
  else { a with unknown := a.unknown ++ words }

/-- Keeps an argument, which begins the unknown ones if it looks like an option. -/
def keepOne (given : List Char) (a : Arguments α) : Arguments α :=
  if a.unknown.isEmpty && isDashed given then { a with unknown := [String.ofList given] }
  else a.keep [given]

/-- Keeps what follows two dashes. The dashes stay where another command reads on. -/
def keepRest (rest : List (List Char)) (a : Arguments α) : Arguments α :=
  a.keep (if a.unknown.isEmpty then rest else ['-', '-'] :: rest)

end Arguments

namespace Flag

variable {α : Type}

/-- An option without a value. -/
def switch (long : String) (set : α → α) : Flag α where
  long := long
  set _ settings := .ok (set settings)

/-- An option with a text. -/
def text (long argument : String) (set : String → α → α) : Flag α where
  long := long
  argument := some argument
  set value settings := .ok (set value settings)

/-- An option with a number. -/
def number (long argument : String) (read : String → Except NumberDefect Number)
    (set : Number → α → α) : Flag α where
  long := long
  argument := some argument
  set value settings :=
    match read value with
    | .ok n => .ok (set n settings)
    | .error defect => .error (.misuse (.badNumber defect))

/-- An option as it is spelled in the help. -/
def spelling (flag : Flag α) : String :=
  let short := match flag.short with
    | some c => String.ofList ['-', c, ',', ' ']
    | none => ""
  let argument := match flag.argument with
    | some name => s!" <{name}>"
    | none => ""
  short ++ flag.long ++ argument

/-- The argument names the option. -/
def isNamed (arg : List Char) (flag : Flag α) : Bool :=
  flag.long.toList = arg ∨ (flag.short.map fun c => ['-', c]) = some arg

/-- An option that an argument begins with, and the rest of the argument: a short option with more
    behind it, or a long one with a value behind an equals sign. -/
inductive Joined (α : Type) where
  | short (flag : Flag α) (behind : List Char)
  | long (flag : Flag α) (value : List Char)
  | none

/-- The short option that an argument with more behind it begins with. -/
def short? (flags : List (Flag α)) : List Char → Option (Flag α × List Char)
  | '-' :: c :: d :: more =>
    if c = '-' then none else (flags.find? (isNamed ['-', c])).map fun flag => (flag, d :: more)
  | _ => none

/-- The long option with a value behind an equals sign. -/
def long? (flags : List (Flag α)) (arg : List Char) : Option (Flag α × List Char) :=
  match arg.dropWhile (· ≠ '=') with
  | '=' :: value =>
    (flags.find? fun flag =>
      flag.argument.isSome && flag.long.toList = arg.takeWhile (· ≠ '=')).map
        fun flag => (flag, value)
  | _ => none

/-- How an argument begins. -/
def joined (flags : List (Flag α)) (arg : List Char) : Joined α :=
  match short? flags arg, long? flags arg with
  | some (flag, behind), _ => .short flag behind
  | Option.none, some (flag, value) => .long flag value
  | Option.none, Option.none => .none

/-- Takes a value over. -/
def take (flag : Flag α) (value : List Char) (a : Arguments α) : Except Stop (Arguments α) := do
  let settings ← flag.set (String.ofList value) a.settings
  return { a with settings }

/-- Reads one argument, with the value that may follow it; the arguments still to be read are
    returned. -/
def step (flags : List (Flag α)) (arg : List Char) (rest : List (List Char)) (a : Arguments α) :
    Except Stop (Arguments α × List (List Char)) :=
  match flags.find? (isNamed arg) with
  | some flag =>
    match flag.argument, rest with
    | some _, [] => .error (.misuse (.missingArgument flag.spelling))
    | some _, value :: rest => (flag.take value a).map fun a => (a, rest)
    | none, rest => (flag.take [] a).map fun a => (a, rest)
  | none =>
    match joined flags arg with
    | .short flag behind =>
      if flag.argument.isSome then (flag.take behind a).map fun a => (a, rest)
      else (flag.take [] a).map fun a => (a, ('-' :: behind) :: rest)
    | .long flag value => (flag.take value a).map fun a => (a, rest)
    | .none => .ok (a.keepOne arg, rest)

/-- Reads arguments. Each step drops an argument or shortens one; `fuel` bounds the steps. -/
def readFrom (flags : List (Flag α)) :
    (fuel : Nat) → Arguments α → List (List Char) → Except Stop (Arguments α)
  | 0, a, _ => .ok a
  | _, a, [] => .ok a
  | fuel + 1, a, arg :: rest =>
    if arg = ['-', '-'] then .ok (a.keepRest rest)
    else
      match step flags arg rest a with
      | .ok (a, rest) => readFrom flags fuel a rest
      | .error stop => .error stop

/-- Reads arguments into settings. -/
def read (flags : List (Flag α)) (settings : α) (args : List String) :
    Except Stop (Arguments α) :=
  let args := args.map String.toList
  readFrom flags (args.foldl (fun n arg => n + arg.length + 1) 1) { settings } args

end Flag

/-- The known words similar to a word. Of long options the dashes are not compared. -/
def similarTo (word : String) (known : List String) : List String :=
  if Text.startsWith word.toList ['-', '-'] then
    let bare := fun (word : String) => String.ofList (word.toList.drop 2)
    (Similar.nearest (bare word) (known.map bare)).map fun word => "--" ++ word
  else Similar.nearest word known

end CorpusForge
