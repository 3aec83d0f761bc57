import RoundTrip.Failure

/-!
# Commands

A program, its arguments, and what to do about it: whether its output is shown even in a quiet
run, and whether a run stops when the program cannot be started or takes too long.
-/

namespace RoundTrip

/-- A command. -/
structure Command where
  /-- The program. -/
  program : Path
  /-- The arguments behind the program. -/
  args : List Bytes := []
  /-- Whether its output is shown in any case. -/
  visible : Bool := false
  /-- Whether a run stops if the program cannot be started or takes too long. -/
  fatal : Bool := true
  /-- What is said about it when it fails. -/
  description : Option String := none
  deriving DecidableEq, Inhabited

namespace Command

/-- The command of a list of words, of which the first is the program. -/
def ofWords : List Bytes → Attempt Command
  | [] => .error .emptyCommand
  | program :: args => .ok { program := ⟨program⟩, args }

/-- What messages show of a command. -/
def line (c : Command) : String :=
  " ".intercalate ((c.program.bytes :: c.args).map Utf8.display)

end Command

end RoundTrip
