import CorpusForge.Failure
import CorpusForge.History.Schedule

/-!
# Replaying a history

A version-control backend takes calls (`Call`), each of which it may refuse by throwing anything.
The commits of a history are a fixed sequence of calls (`Call.history`); replaying makes them one
after the other and stops at the first refusal.
-/

namespace CorpusForge

/-- A request to a version-control backend. -/
inductive Call where
  | init
  | setIdentity (contributor : Contributor)
  | stage (file : String)
  | commit (message : String) (timestamp : Timestamp)
  deriving DecidableEq, Repr

namespace Call

/-- The calls of one commit. -/
def ofCommit (c : Commit) : List Call :=
  setIdentity c.author :: c.files.map stage ++ [commit c.message c.timestamp]

/-- The calls of a whole history. -/
def history (commits : List Commit) : List Call := init :: commits.flatMap ofCommit

/-- The call makes a commit. -/
def isCommit : Call → Bool
  | commit _ _ => true
  | _ => false

/-- The words for a call. -/
def operation : Call → String
  | init => "init"
  | setIdentity _ => "set identity"
  | stage file => s!"stage {file}"
  | commit _ _ => "commit"

/-- The code of a failed call. -/
def errorCode : Call → ErrorCode
  | init => .initRefused
  | setIdentity _ => .identityRefused
  | stage _ => .stageRefused
  | commit _ _ => .commitRefused

end Call

/-- A call to the version-control program failed. -/
def Failure.callRefused (repository : String) (call : Call) (cause : Option Foreign) : Failure where
  code := call.errorCode
  severity := .recoverable
  message := s!"git {call.operation} failed in {repository}"
  context := some [("repoPath", .string repository), ("operation", .string call.operation)]
  cause := cause

/-- How far the making of a repository came. -/
inductive Status where
  | success
  | partly
  | failed
  deriving DecidableEq, Repr

namespace Status

def text : Status → String
  | success => "success"
  | partly => "partial"
  | failed => "failed"

end Status

/-- The outcome of a replay. -/
structure Replay where
  status : Status
  commitsApplied : Nat
  error : Option Failure

namespace Replay

/-- Makes calls in order up to the first refusal. Gives what was thrown, if anything, and how
    many commits were made on top of `applied`. -/
def run {m : Type → Type} [Monad m] (call : Call → m (Except Thrown Unit)) :
    (applied : Nat) → List Call → m (Option Thrown × Nat)
  | applied, [] => pure (none, applied)
  | applied, c :: rest => do
    match ← call c with
    | .ok _ => run call (if c.isCommit then applied + 1 else applied) rest
    | .error thrown => pure (some thrown, applied)

/-- The outcome after a number of commits, when a failure ended the replay there. -/
def stopped (applied : Nat) (failure : Failure) : Replay :=
  ⟨if 0 < applied then .partly else .failed, applied, some failure⟩

/-- The outcome of what was thrown, if anything, and a number of commits. -/
def outcome : Option Thrown × Nat → Except Misuse Replay
  | (none, applied) => .ok ⟨.success, applied, none⟩
  | (some thrown, applied) => thrown.normalize.map (stopped applied)

/-- Replays a history against a backend with a state. -/
def replay {σ : Type} (call : Call → σ → Except Thrown Unit × σ) (commits : List Commit) (s : σ) :
    Except Misuse Replay × σ :=
  let answer (c : Call) : StateM σ (Except Thrown Unit) := call c
  let (ended, s) := run answer 0 (Call.history commits) s
  (outcome ended, s)

end Replay

end CorpusForge
