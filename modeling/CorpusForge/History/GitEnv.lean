import CorpusForge.Config.Load
import CorpusForge.Text.Case

/-!
# The environment of version-control calls

The version-control program sees only the variables that it needs to find itself, the user's
settings and a temporary directory, in any letter case. Prompts are off.
-/

namespace CorpusForge.Environment

/-- The variables that are passed on, besides those of the locale. -/
def passedOn : List String :=
  ["PATH", "PATHEXT", "HOME", "USER", "USERPROFILE", "APPDATA", "SYSTEMROOT", "COMSPEC",
   "TMPDIR", "TEMP", "TMP", "XDG_CONFIG_HOME", "LANG", "LANGUAGE"]

/-- A variable that is passed on. -/
def passesThrough (name : String) : Bool :=
  let name := Text.upper name
  passedOn.contains name || Text.startsWith name.toList "LC_".toList

/-- Replaces a variable where it stands, or adds it at the end. -/
def set (name value : String) : Environment → Environment
  | [] => [(name, value)]
  | (key, old) :: rest =>
    if key = name then (key, value) :: rest else (key, old) :: set name value rest

/-- The environment of a call: what is passed on from `source`, prompts off, then `extra`. -/
def forGit (extra source : Environment) : Environment :=
  extra.foldl (fun env (name, value) => set name value env)
    (set "GIT_TERMINAL_PROMPT" "0" (source.filter fun (name, _) => passesThrough name))

end CorpusForge.Environment
