import CorpusForge.Random.Drawing
import CorpusForge.Value.Basic

/-!
# Failures

A `Failure` says what went wrong in the terms of the library: a code, how severe it is, a message,
and a record of details. A disk refuses with an error of its own (`Foreign`), and a version-control
backend may throw anything (`Thrown`); the library itself stops at a failure, at a draw that is
refused, or at a `Misuse` of a value (`Mishap`).

Normalizing brings all of these into the form of a failure. A full disk has a code of its own, every
other foreign error is unknown. It takes the text of what was thrown, and where there is none, that
is a misuse again.

* `Mishap.normalize`: the failure that a mishap amounts to;
* `Thrown.normalize`: the same for anything thrown, unless it has no text.
-/

namespace CorpusForge

/-- What went wrong. -/
inductive ErrorCode where
  | configInvalid
  | secretMissing
  | directoryRefused
  | pathConflict
  | writeRefused
  | templateMissing
  | placeholderUnknown
  | artifactUnknown
  | initRefused
  | identityRefused
  | stageRefused
  | commitRefused
  | unknown
  | diskFull
  deriving DecidableEq, Repr

/-- The part of the library that a code belongs to. -/
inductive ErrorFamily where
  | config
  | layout
  | content
  | artifact
  | vcs
  | system
  deriving DecidableEq, Repr

/-- How bad a failure is. -/
inductive Severity where
  | fatal
  | recoverable
  | warning
  deriving DecidableEq, Repr

namespace Severity

def text : Severity → String
  | fatal => "fatal"
  | recoverable => "recoverable"
  | warning => "warning"

def ofText? : String → Option Severity
  | "fatal" => some fatal
  | "recoverable" => some recoverable
  | "warning" => some warning
  | _ => none

end Severity

namespace ErrorFamily

/-- A wrong configuration ends a run; any other failure ends one repository at most. -/
def severity : ErrorFamily → Severity
  | config => .fatal
  | _ => .recoverable

end ErrorFamily

namespace ErrorCode

/-- The codes, family by family. -/
def all : List ErrorCode :=
  [configInvalid, secretMissing, directoryRefused, pathConflict, writeRefused, templateMissing,
   placeholderUnknown, artifactUnknown, initRefused, identityRefused, stageRefused,
   commitRefused, unknown, diskFull]

def text : ErrorCode → String
  | configInvalid => "CONFIG_INVALID"
  | secretMissing => "CONFIG_SECRET_MISSING"
  | directoryRefused => "STRUCTURE_MKDIR_FAILED"
  | pathConflict => "STRUCTURE_PATH_CONFLICT"
  | writeRefused => "CONTENT_WRITE_FAILED"
  | templateMissing => "ARTIFACT_TEMPLATE_MISSING"
  | placeholderUnknown => "ARTIFACT_PLACEHOLDER_UNKNOWN"
  | artifactUnknown => "ARTIFACT_UNKNOWN"
  | initRefused => "VCS_INIT_FAILED"
  | identityRefused => "VCS_IDENTITY_FAILED"
  | stageRefused => "VCS_STAGE_FAILED"
  | commitRefused => "VCS_COMMIT_FAILED"
  | unknown => "UNKNOWN_ERROR"
  | diskFull => "DISK_SPACE_LOW"

def ofText? (text : String) : Option ErrorCode := all.find? fun code => code.text == text

def family : ErrorCode → ErrorFamily
  | configInvalid | secretMissing => .config
  | directoryRefused | pathConflict => .layout
  | writeRefused => .content
  | templateMissing | placeholderUnknown | artifactUnknown => .artifact
  | initRefused | identityRefused | stageRefused | commitRefused => .vcs
  | unknown | diskFull => .system

end ErrorCode

/-- An error that the library did not make itself. -/
inductive Foreign where
  /-- An exception with its message and, when it has one, its code. -/
  | exception (message : String) (code : Option Value)
  /-- A plain value. -/
  | value (value : Value)
  /-- Anything else, by the text and the code that it has, if any. -/
  | other (text code : Option String)
  deriving Inhabited

/-- A failure of the library. -/
structure Failure where
  code : ErrorCode
  severity : Severity
  message : String
  context : Option Fields := none
  cause : Option Foreign := none

/-- An operation on a value that does not have it. -/
inductive Misuse where
  /-- The text of a value that has none is asked for. -/
  | noText
  /-- The manifests of something that is no toolchain are listed. -/
  | noManifests
  /-- A template that is not there is looked into. -/
  | noTemplate
  deriving DecidableEq, Repr

/-- The message of a misuse. -/
def Misuse.message : Misuse → String
  | noText => "Cannot convert object to primitive value"
  | noManifests => "toolchainFor.manifests is not iterable"
  | noTemplate => "Cannot read properties of undefined (reading 'toLowerCase')"

/-- What the library itself stops at. -/
inductive Mishap where
  | failure (failure : Failure)
  | refusal (refusal : Refusal)
  | misuse (misuse : Misuse)

/-- Anything that a version-control backend may throw. -/
inductive Thrown where
  | failure (failure : Failure)
  | foreign (foreign : Foreign)

namespace Foreign

/-- The text that tells what was thrown, if it has one. -/
def message? : Foreign → Option String
  | exception message _ => some message
  | value v => v.text?
  | other text _ => text

/-- The code of the operating system, when the error carries one. -/
def errno : Foreign → Option String
  | exception _ (some (.string code)) => some code
  | value (.object fields) =>
    match Fields.get? "code" fields with
    | some (.string code) => some code
    | _ => none
  | other _ code => code
  | _ => none

/-- The failure that a foreign error with a message amounts to. -/
def told (foreign : Foreign) (message : String) : Failure :=
  match foreign.errno with
  | some "ENOSPC" =>
    { code := .diskFull, severity := .recoverable, message, cause := some foreign }
  | errno =>
    { code := .unknown, severity := .recoverable, message
      context := match errno with
        | some "" => none
        | some code => some [("errno", .string code)]
        | none => none
      cause := some foreign }

/-- The failure that a foreign error amounts to. One without a text is not brought into a form. -/
def normalize (foreign : Foreign) : Except Misuse Failure :=
  match foreign.message? with
  | some message => .ok (foreign.told message)
  | none => .error .noText

end Foreign

namespace Failure

/-- The failure that an exception amounts to. -/
def ofException (message : String) (code : Option Value := none) : Failure :=
  Foreign.told (.exception message code) message

/-- A failure of the configuration. -/
def isConfig (failure : Failure) : Bool := failure.code.family == .config

/-- The code of the operating system behind a failure. -/
def errno (failure : Failure) : Option String :=
  match failure.context with
  | some fields =>
    match fields.get? "errno" with
    | some (.string code) => some code
    | _ => none
  | none => none

end Failure

namespace Mishap

/-- What a mishap says. -/
def message : Mishap → String
  | failure f => f.message
  | refusal r => r.message
  | misuse m => m.message

/-- The failure that a mishap amounts to; a failure stays as it is. -/
def normalize : Mishap → Failure
  | failure f => f
  | refusal r => .ofException r.message
  | misuse m => .ofException m.message

end Mishap

namespace Thrown

/-- The text of anything thrown, if it has one. -/
def text? : Thrown → Option String
  | failure f => some f.message
  | foreign x => x.message?

/-- Brings anything thrown into the form of a failure; a failure stays as it is. -/
def normalize : Thrown → Except Misuse Failure
  | failure f => .ok f
  | foreign x => x.normalize

/-- Anything thrown amounts to a failure, unless it has no text. -/
theorem normalize_cases (thrown : Thrown) :
    (∃ failure, thrown.normalize = .ok failure ∧ thrown.text? ≠ none) ∨
      thrown.normalize = .error .noText ∧ thrown.text? = none := by
  cases thrown with
  | failure f => exact .inl ⟨f, rfl, Option.some_ne_none _⟩
  | foreign x =>
    cases hmessage : x.message? with
    | none => exact .inr ⟨by rw [normalize, Foreign.normalize, hmessage], hmessage⟩
    | some message =>
      refine .inl ⟨x.told message, by rw [normalize, Foreign.normalize, hmessage], ?_⟩
      rw [text?, hmessage]
      exact Option.some_ne_none _

end Thrown

end CorpusForge
