import CorpusForge.Config.Rules
import CorpusForge.Failure
import CorpusForge.Text.Reference

/-!
# Loading a configuration

A configuration source is a plain value. Its texts may name variables of the environment as
`$\x7bNAME\x7d`; these are put in first, then the value is read by the rules of
`CorpusForge.Config.Rules`.

* `interpolate`, `Value.interpolate`: the variables put in;
* `Config.load`: the configuration, or the failure that says why there is none;
* `Overrides.apply`: a configuration with some settings replaced, loaded again.
-/

namespace CorpusForge

/-- The variables of an environment. -/
abbrev Environment := List (String × String)

namespace Environment

/-- The value of a variable. -/
def get? (name : String) (env : Environment) : Option String :=
  (env.find? fun (key, _) => key == name).map Prod.snd

end Environment

/-! ### Variables -/

/-- A variable reference: a dollar sign and a name between braces. -/
def variableStyle : ReferenceStyle where
  opening := ['$', '\x7b']
  closing := ['\x7d']
  leads c := Text.isLetter c || c == '_'
  follows c := Text.isLetter c || Text.isDigit c || c == '_'

namespace Failure

/-- A referenced variable is not set. -/
def secretMissing (name : String) (path : List String) : Failure where
  code := .secretMissing
  severity := .fatal
  message := s!"Environment variable {name} is referenced in config but not set"
  context := some [("variableName", .string name),
    ("path", .string (if path = [] then "<root>" else Text.join "." path))]

/-- A configuration breaks its rules. -/
def configInvalid (issues : List Issue) : Failure where
  code := .configInvalid
  severity := .fatal
  message := "Invalid repo-synth configuration"
  context := some [("issues", .array (issues.map Issue.toValue))]

end Failure

/-- A text with the variables put in; `path` is where it stands. -/
def interpolate (env : Environment) (path : List String) (text : String) :
    Except Failure String :=
  match variableStyle.expand env.get? text with
  | .ok filled => .ok filled
  | .error name => .error (.secretMissing name path)

namespace Value

mutual

/-- A value with the variables put into every text. Its records are built anew. -/
def interpolate (env : Environment) (path : List String) : Value → Except Failure Value
  | .string s => (CorpusForge.interpolate env path s).map .string
  | .array items => (interpolateItems env path 0 items).map .array
  | .object fields => (interpolateFields env path fields).map fun fields =>
      .object (Fields.built fields)
  | v => .ok v

def interpolateItems (env : Environment) (path : List String) :
    (index : Nat) → List Value → Except Failure (List Value)
  | _, [] => .ok []
  | index, item :: rest => do
    let item ← interpolate env (path ++ [Decimal.natText index]) item
    let rest ← interpolateItems env path (index + 1) rest
    return item :: rest

def interpolateFields (env : Environment) (path : List String) :
    List (String × Value) → Except Failure (List (String × Value))
  | [] => .ok []
  | (key, item) :: rest => do
    let item ← interpolate env (path ++ [key]) item
    let rest ← interpolateFields env path rest
    return (key, item) :: rest

end

end Value

/-! ### Loading -/

namespace Config

/-- The configuration that a plain value describes. -/
def load (env : Environment) (source : Value) : Except Failure Config := do
  let value ← source.interpolate env []
  match (read ⟨some value, []⟩).result with
  | .ok config => .ok config
  | .error issues => .error (.configInvalid issues)

end Config

/-- Settings given on top of a configuration, as plain values that are yet to be checked. -/
structure Overrides where
  outputDir : Option Value := none
  targetCount : Option Value := none
  startIndex : Option Value := none
  seed : Option Value := none
  concurrency : Option Value := none
  skipExisting : Option Value := none
  faultProbability : Option Value := none

namespace Overrides

/-- The settings that are plain fields, in the order in which they are laid over. -/
def fields (o : Overrides) : Fields :=
  [("outputDir", o.outputDir), ("targetCount", o.targetCount), ("startIndex", o.startIndex),
   ("seed", o.seed), ("concurrency", o.concurrency), ("skipExisting", o.skipExisting)].filterMap
    fun (name, setting) => setting.map fun value => (name, value)

/-- The fault settings of a configuration with the probability replaced. -/
def faults (o : Overrides) (base : FaultInjection) : Value :=
  .object [("enabled", .bool base.enabled),
    ("probability", o.faultProbability.getD (.number base.probability))]

/-- The plain form of a configuration with the settings laid over it. -/
def lay (o : Overrides) (base : Config) : Value :=
  .object ((o.fields.foldl (fun fields (key, value) => fields.set key value) base.toFields).set
    "faultInjection" (o.faults base.faultInjection))

/-- The configuration with the settings laid over it, or over the default one when there is
    none. The result is loaded again, so its texts may name variables. -/
def apply (o : Overrides) (env : Environment) (base : Option Config) : Except Failure Config := do
  let base ← match base with
    | some config => pure config
    | none => Config.load env (.object [])
  Config.load env (o.lay base)

end Overrides

end CorpusForge
