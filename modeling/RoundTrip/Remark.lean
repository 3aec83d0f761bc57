import RoundTrip.Act
import RoundTrip.Command
import RoundTrip.Ending
import RoundTrip.Files.Tree
import RoundTrip.Log
import RoundTrip.Preparation
import RoundTrip.Stream

/-!
# Tools and their remarks

A tool acts on a world: the files and a memory of its own, which lets its answers depend on all
that happened before. While it acts it makes remarks: it prints, it logs, or it asks for the run to
be cancelled. It cannot speak for the run itself, whose events are of another type
(`RoundTrip.Event`).
-/

namespace RoundTrip

/-- What tools act on. -/
structure World (μ : Type) where
  /-- The files. -/
  files : FileTree
  /-- What the tools remember. -/
  memory : μ

/-- What a tool does that can be seen from outside. -/
inductive Remark where
  /-- It asks for the run to be cancelled. -/
  | cancel
  /-- It prints to a stream that is shown. -/
  | printed (channel : Channel) (bytes : Bytes)
  /-- A command is about to be started, and its output is shown or not. -/
  | launching (command : Command) (visible : Bool)
  /-- A command that may fail could not be run. -/
  | troubled (command : Command) (reason : String)
  /-- A command whose time was over could not be killed. -/
  | killFailed (reason : Reason)
  /-- The assembler rejected its input. -/
  | assemblyFailed (command : Command) (code : Int32)
  /-- The interpreter was not even tried. -/
  | rejected (failure : Failure)
  /-- A tool did not say its version in time. -/
  | queryTimedOut (tool : Path) (limitSecs : Nat)
  /-- A tool was found, by a name with its version or by its banner. -/
  | resolved (tool version : String) (path : Path) (byName : Bool)
  /-- A stage of preparing a corpus begins. -/
  | preparing (suite : String) (stage : Stage) (command : Command)

/-- An action of a tool. -/
abbrev Tool (μ α : Type) : Type := Act Remark (World μ) α

namespace Remark

/-- Whether a tool asks for the run to be cancelled. -/
def isCancel : Remark → Bool
  | .cancel => true
  | _ => false

/-- What is logged when a command that may fail could not be run. -/
def troubleRecord (command : Command) (reason : String) : LogRecord :=
  match command.description with
  | some description =>
    .say .error "irbuilder_harness::invoker" ("Error: " ++ description)
      [("command", .text command.line), ("reason", .text reason)]
  | none =>
    .say .error "irbuilder_harness::invoker" ("Error: Cannot run " ++ command.line)
      [("reason", .text reason)]

/-- The log record of a remark. -/
def record? : Remark → Option LogRecord
  | .cancel | .printed _ _ => none
  | .launching command visible =>
    some (.say .debug "irbuilder_harness::invoker" "Running tool"
      [("command", .text command.line), ("visible", .bool visible)])
  | .troubled command reason => some (troubleRecord command reason)
  | .killFailed reason =>
    some (.say .debug "irbuilder_harness::invoker" "Failed to kill timed out tool"
      [("error", .text reason.text)])
  | .assemblyFailed command code =>
    some (.say .error "irbuilder_harness::assembler"
      ("Error: " ++ command.description.getD "")
      [("exit_code", .int code.toInt), ("command", .text command.line)])
  | .rejected failure =>
    some (.say .error "irbuilder_harness::interpreter" "Interpreter invocation rejected"
      [("error", .text failure.message)])
  | .queryTimedOut tool limitSecs =>
    some (.say .warn "irbuilder_harness::toolchain" "Version query timed out; ignoring tool"
      [("tool", .text tool.display), ("limit_secs", .int limitSecs)])
  | .resolved tool version path byName =>
    some (.say .debug "irbuilder_harness::toolchain"
      (if byName then "Resolved tool" else "Resolved unversioned tool")
      [("tool", .text tool), ("version", .text version), ("path", .text path.display)])
  | .preparing suite stage command =>
    some (.say .info "irbuilder_harness::corpus" "Preparing corpus"
      [("suite", .text suite), ("step", .text stage.name), ("command", .text command.line)])

end Remark

end RoundTrip
