import RoundTrip.Path
import RoundTrip.Reason
import RoundTrip.Stage

/-!
# What stops a run

A run is stopped only by what is wrong with its surroundings: tools that are not installed or
cannot be started, settings that cannot work, files that cannot be read or written. What is wrong
with an artifact is a finding and stops nothing.
-/

namespace RoundTrip

/-- Why settings cannot work. -/
inductive SettingsFault where
  /-- The command of a stage has no words. -/
  | emptyCommand (stage : Stage)
  /-- The cache root is the empty path. -/
  | emptyCacheRoot
  /-- A version list is empty or has a blank version. -/
  | noVersion
  /-- No generation has this name. -/
  | unknownGeneration (name : String)
  /-- Another fault, given by its text. -/
  | stated (text : String)
  deriving DecidableEq, Inhabited

/-- What messages call a fault of settings. -/
def SettingsFault.text : SettingsFault → String
  | .emptyCommand stage => "corpus." ++ stage.name ++ " must not be an empty command"
  | .emptyCacheRoot => "cache_root must not be empty"
  | .noVersion => "a tool version list needs at least one non-empty version"
  | .unknownGeneration name =>
    "unknown toolchain generation `" ++ name ++ "` (expected 32 or 38)"
  | .stated text => text

/-- Why a JSON text cannot be read or written. -/
inductive JsonFault where
  /-- The text is not a document of the expected form. -/
  | malformed
  /-- A path to be written is no text. -/
  | pathNotText
  deriving DecidableEq, Inhabited

/-- What messages call a fault of a JSON text. -/
def JsonFault.text : JsonFault → String
  | .malformed => "not a document of the expected form"
  | .pathNotText => "path contains invalid UTF-8 characters"

/-- What stops a run. -/
inductive Failure where
  /-- No installed tool has an accepted version. -/
  | toolNotFound (tool : String) (versions : List String)
  /-- A tool cannot be started. -/
  | launchFailure (command : String) (reason : Reason)
  /-- A tool was killed after so many seconds. -/
  | timeout (command : String) (limit : UInt64)
  /-- A command has no program. -/
  | emptyCommand
  /-- A generation has no suite of this name, but the known ones. -/
  | unknownSuite (name generation : String) (known : List String)
  /-- Settings cannot work. -/
  | invalidSettings (fault : SettingsFault)
  /-- The settings file cannot be read. -/
  | settingsUnreadable (path : Path) (reason : Reason)
  /-- A file cannot be read or written. -/
  | io (reason : Reason)
  /-- A JSON text cannot be read or written. -/
  | json (fault : JsonFault)
  deriving DecidableEq, Inhabited

/-- What messages call a failure. -/
def Failure.message : Failure → String
  | .toolNotFound tool versions =>
    "no installed " ++ tool ++ " matches any of the accepted versions ["
      ++ ", ".intercalate versions ++ "]"
  | .launchFailure command reason => "cannot launch `" ++ command ++ "`: " ++ reason.text
  | .timeout command limit =>
    "`" ++ command ++ "` timed out after " ++ toString limit.toNat ++ " seconds"
  | .emptyCommand => "refusing to run an empty command"
  | .unknownSuite name generation known =>
    "unknown suite `" ++ name ++ "` for LLVM " ++ generation ++ " (known: "
      ++ ", ".intercalate known ++ ")"
  | .invalidSettings fault => "invalid configuration: " ++ fault.text
  | .settingsUnreadable path reason =>
    "cannot read configuration " ++ path.display ++ ": " ++ reason.text
  | .io reason => "io error: " ++ reason.text
  | .json fault => "serialization error: " ++ fault.text

/-- The reason that lies behind a failure, where messages give it on a line of its own. -/
def Failure.cause? : Failure → Option String
  | .settingsUnreadable _ reason | .io reason => some reason.text
  | .json fault => some fault.text
  | _ => none

/-- A result, or what stopped the run. -/
abbrev Attempt (α : Type) := Except Failure α

end RoundTrip
