import RoundTrip.Launcher

/-!
# Installed tools

The assembler and the interpreter as programs that are installed on a host. The assembler always
shows its output, and the run stops if it cannot be run; the interpreter is an object of the test,
and an interpreter that cannot be run is one more way for a binary to end.
-/

namespace RoundTrip

/-- The name of the assembler. -/
def assemblerName : String := "llvm-as"

/-- The name of the interpreter. -/
def interpreterName : String := "lli"

/-- A tool that is installed. -/
structure Installed where
  /-- Its program. -/
  program : Path
  /-- The arguments of each call. -/
  flags : List String := []
  /-- How it is launched. -/
  launcher : Launcher := {}
  deriving DecidableEq, Inhabited

namespace Installed

variable {μ : Type}

/-- The assembler at a path. -/
def assembler (program : Path) (s : Settings) : Installed :=
  ⟨program, s.assemblerFlags, .ofSettings s⟩

/-- The interpreter at a path. -/
def interpreter (program : Path) (s : Settings) : Installed :=
  ⟨program, s.interpreterFlags, .ofSettings s⟩

/-- The command of a tool on an input, with more flags behind its own. -/
def command (t : Installed) (flags : List String) (input : Path) : Command where
  program := t.program
  args := (t.flags ++ flags).map Utf8.encode ++ [input.bytes]

/-- The command of an assembler. -/
def assembly (t : Installed) (flags : List String) (input : Path) : Command :=
  { t.command flags input with
    visible := true
    description := some ("Cannot assemble " ++ input.display ++ " with " ++ t.program.display) }

/-- The command of an interpreter. -/
def interpretation (t : Installed) (flags : List String) (input : Path) : Command :=
  { t.command flags input with
    fatal := false
    description := some ("Cannot run " ++ input.display ++ " with " ++ t.program.display) }

/-- Assembles an input and gives the code of the ending. -/
def assemble (t : Installed) (host : Host μ) (flags : List String) (input : Path) :
    Tool μ (Attempt Int32) := do
  let c := t.assembly flags input
  match ← t.launcher.executeCode host c with
  | .error f => pure (.error f)
  | .ok code =>
    if code ≠ 0 then Act.emit (.assemblyFailed c code)
    pure (.ok code)

/-- Runs an input and gives its ending. -/
def interpret (t : Installed) (host : Host μ) (flags : List String) (input : Path) :
    Tool μ Ending := do
  match ← t.launcher.execute host (t.interpretation flags input) with
  | .ok ending => pure ending
  | .error f =>
    Act.emit (.rejected f)
    pure .launchFailed

end Installed

end RoundTrip
