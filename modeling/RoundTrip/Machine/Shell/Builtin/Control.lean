import RoundTrip.Machine.Shell.Redirection
import RoundTrip.Machine.Shell.Builtin.Jobs
import RoundTrip.Machine.Shell.Builtin.Surroundings
import RoundTrip.Machine.Shell.Builtin.Variables

/-!
# The flow of a script

The commands of the shell that leave loops and functions, run texts and files as scripts, and
become programs; and the table of all commands of the shell.
-/

namespace RoundTrip.Shell

open Machine

namespace Builtin

/-- The commands `break` and `continue`. -/
def leaveLoop : Builtin := fun _ name args => do
  let count ← match args with
    | word :: _ => do
      let n ← Sh.number word
      if n = 0 then Sh.badNumber word else pure n
    | [] => pure 1
  let count := min count (← get).loops
  if 0 < count then
    let skip : Skip := if name == "continue".toList then .again count else .leave count
    modify fun s => { s with skip }
  return 0

/-- The command `return`. -/
def return_ : Builtin := fun _ _ args => do
  match args with
  | word :: _ =>
    let status ← Sh.number word
    modify fun s => { s with skip := .giveBack true }
    return status
  | [] =>
    modify fun s => { s with skip := .giveBack false }
    return (← get).status

/-- The command `exit`. -/
def exit_ : Builtin := fun _ _ args => do
  match args with
  | word :: _ =>
    let status ← Sh.number word
    modify fun s => { s with kept := some status }
  | [] => pure ()
  throw .exit

/-- Passes over no more commands if that was to be so up to the end of a function. -/
def endSkip : Sh Unit := modify fun s =>
  match s.skip with
  | .giveBack _ => { s with skip := .none }
  | _ => s

/-- Runs a text as a script. -/
def runText (run : Runner) (p : Purpose) (text : Reader) : Sh Nat := do
  let line := (← get).scriptLine
  let status ← run (.script p text 0)
  modify fun s => { s with scriptLine := line }
  return status

/-- The command `eval`. -/
def eval (p : Purpose) : Builtin := fun run _ args => do
  match args with
  | [] => return 0
  | words => runText run { tested := p.tested } { rest := [' '].intercalate words }

/-- The command `.`. -/
def dot : Builtin := fun run _ args => do
  let (_, words) ← Sh.options "" "" args
  match words with
  | [] => return 0
  | name :: _ =>
    let path ← if name.contains '/' then pure name
      else do
        let all := candidates (← get).searchPath name
        match ← Sh.see fun files => all.find? fun p => files.isFile (pathOf p) with
        | some p => pure p
        | none => Sh.fail (name ++ ": not found".toList)
    match ← Sh.see fun files => files.node (pathOf path) with
    | .error r => Sh.fail ("cannot open ".toList ++ path ++ [':', ' '] ++ openPhrase .read r)
    | .ok node =>
      let text := match node with
        | .file content _ => (charsOf content).filter (· != '\x00')
        | _ => []
      modify fun s => { s with label := some path }
      let status ← runText run {} { rest := text, isFile := true }
      endSkip
      return status

/-- The command `exec`. -/
def exec : Builtin := fun run _ args => do
  match args with
  | [] => return 0
  | name :: words => Sh.become run (candidates (← get).searchPath name) name words

/-- A command of the shell that always has the same status. -/
def always (status : Nat) : Builtin := fun _ _ _ => return status

/-- The commands of the shell by their names, but for `eval`. -/
def all : List (String × Builtin) := [
  (":", always 0), ("true", always 0), ("false", always 1), (".", dot), ("[", test_),
  ("alias", alias_), ("bg", resume), ("break", leaveLoop), ("cd", cd), ("chdir", cd),
  ("command", command_), ("continue", leaveLoop), ("echo", echo_), ("exec", exec), ("exit", exit_),
  ("export", markVars), ("fg", resume), ("getopts", getopts), ("hash", hash_), ("jobs", jobs_),
  ("kill", kill), ("local", local_), ("printf", printf_), ("pwd", pwd_), ("read", read),
  ("readonly", markVars), ("return", return_), ("set", set_), ("shift", shift), ("test", test_),
  ("times", times), ("trap", trap), ("type", type_), ("ulimit", ulimit), ("umask", umask),
  ("unalias", unalias), ("unset", unset), ("wait", wait)]

end Builtin

end RoundTrip.Shell
