import RoundTrip.Machine.Loader
import RoundTrip.Machine.Shell.Fields
import RoundTrip.Machine.Shell.Script.Reader

/-!
# The state of a shell

What a shell remembers while it runs a script, and the monad of what it does (`Sh`): it changes its
state, asks the system, and may stop. A shell that is about to leave a loop or a function does not
stop; it passes over commands until it is out (`Skip`).
-/

namespace RoundTrip.Shell

open Machine

/-- Why a shell stops. -/
inductive Stop where
  /-- Something is wrong, and has been said. -/
  | fault
  /-- It was asked to exit. -/
  | exit
  /-- Its last command is done. -/
  | finish
  deriving DecidableEq, Inhabited

/-- Up to where commands are passed over. -/
inductive Skip where
  /-- They are not. -/
  | none
  /-- Up to the end of so many loops. -/
  | leave (loops : Nat)
  /-- Up to the next round of the loop that is so many loops out. -/
  | again (loops : Nat)
  /-- Up to the end of a function, whose status was given or not. -/
  | giveBack (isGiven : Bool)
  deriving DecidableEq, Inhabited

/-- A variable. -/
structure Var where
  /-- Its value, if it is set. -/
  value : Option Chars
  /-- Whether it is handed on to programs. -/
  exported : Bool := false
  /-- Whether it must not be changed. -/
  fixed : Bool := false
  deriving Inhabited

/-- What is put back when a command or a function is over. -/
inductive Kept where
  /-- A variable, if there was one. -/
  | var (name : Chars) (old : Option Var)
  /-- The options. -/
  | options (old : List Char)

/-- Processes that were started together. -/
structure Job where
  /-- Its number. -/
  number : Nat
  /-- Its processes and how they ended. -/
  processes : List (Nat × Option Exit)
  /-- Whether its end is known to the script. -/
  known : Bool := false
  deriving Inhabited

/-- Where the next option is looked for. -/
structure OptionPlace where
  /-- The number of the argument. -/
  index : Nat := 1
  /-- How many of its letters were read. -/
  letters : Option Nat := none
  deriving Inhabited

/-- The state of a shell. -/
structure State where
  /-- The name that complaints begin with. -/
  name : Chars
  /-- The number of the first shell. -/
  pid : Nat
  /-- The arguments. -/
  args : List Chars := []
  /-- The variables. -/
  vars : List (Chars × Var) := []
  /-- The functions. -/
  functions : List (Chars × Cmd) := []
  /-- The texts that words stand for. -/
  aliases : List (Chars × Chars) := []
  /-- The letters of the options that are set. -/
  options : List Char := []
  /-- The status of the last command. -/
  status : Nat := 0
  /-- The status of the last command whose output was put in since a command began. -/
  outputStatus : Nat := 0
  /-- The status that the shell had when it began to exit or to deal with a signal. -/
  kept : Option Nat := none
  /-- The number of the last process that nobody waits for. -/
  lastBackground : Option Nat := none
  /-- The jobs that nobody waits for, the last one first. -/
  jobs : List Job := []
  /-- What is run when a signal arrives, by its number, or when the shell exits, by 0. -/
  traps : List (Nat × Chars) := []
  /-- The signals that have arrived and that are not dealt with yet. -/
  arrived : List Nat := []
  /-- The line of the command that is run. -/
  line : Nat := 0
  /-- The line that the script is read up to. -/
  scriptLine : Nat := 1
  /-- Whether a command is being shown. -/
  shows : Bool := false
  /-- The command of the shell that is run. -/
  label : Option Chars := none
  /-- How many loops are run. -/
  loops : Nat := 0
  /-- How many functions are run. -/
  calls : Nat := 0
  /-- Up to where commands are passed over. -/
  skip : Skip := .none
  /-- What is put back when commands and functions are over, the innermost one first. -/
  frames : List (List Kept) := []
  /-- Where the next option is looked for. -/
  place : OptionPlace := {}
  /-- The texts of the script that redirections take. -/
  texts : Array Word := #[]
  /-- The paths of the programs that were found. -/
  hashed : List (Chars × Chars) := []
  /-- The working directory as it was called. -/
  here : Chars := []
  /-- What commands of the shell have printed and not written yet, the last text first. -/
  printed : List Chars := []
  /-- The streams that are put back when redirections are over, each with the one that it was
  copied to if it was open, those of the innermost command first. -/
  redirected : List (List (Nat × Option Nat)) := []
  deriving Inhabited

/-- What a shell does. -/
abbrev Sh := ExceptT Stop (StateT State Proc)

namespace State

/-- The value of a variable. -/
def var? (s : State) (name : Chars) : Option Chars := (s.vars.lookup name).bind Var.value

/-- Whether an option is set. -/
def has (s : State) (option : Char) : Bool := s.options.contains option

/-- Whether a variable must not be changed. -/
def isFixed (s : State) (name : Chars) : Bool := (s.vars.lookup name).any Var.fixed

/-- The state with another variable of a name, or with none. -/
def put (s : State) (name : Chars) (v : Option Var) : State :=
  let others := s.vars.filter fun w => w.1 != name
  let s := { s with vars := (v.map (name, ·)).toList ++ others }
  if name == "OPTIND".toList then
    let index := ((v.bind Var.value).bind fun t => (String.ofList t).toNat?).getD 1
    { s with place := { index := max index 1 } }
  else if name == "PATH".toList then { s with hashed := [] }
  else s

/-- The state with another value of a variable, which is handed on if it was or if `exports`. -/
def assign (s : State) (name : Chars) (value : Option Chars) (exports : Bool) : State :=
  let old := s.vars.lookup name
  let exported := exports || s.has 'a' || old.any Var.exported
  s.put name (some { value, exported, fixed := old.any Var.fixed })

/-- The variables that are handed on to programs. -/
def exported (s : State) : List (Chars × Chars) :=
  s.vars.filterMap fun (name, v) => if v.exported then v.value.map (name, ·) else none

/-- The search path. -/
def searchPath (s : State) : List Path :=
  (((s.var? "PATH".toList).getD []).splitOn ':').map pathOf

/-- The separators of fields. -/
def separators (s : State) : Chars := (s.var? "IFS".toList).getD defaultSeparators

/-- Whether something is run when a signal arrives or when the shell exits. -/
def hasTraps (s : State) : Bool := s.traps.any fun t => !t.2.isEmpty

/-- A shell of its own that begins in this one. -/
def subshell (s : State) : State :=
  { s with
    traps := s.traps.filter fun t => t.2.isEmpty
    jobs := [], loops := 0, skip := .none, kept := none, redirected := [] }

end State

namespace Sh

/-- Does something in the system. -/
def perform {α : Type} (p : Proc α) : Sh α := fun s k => p fun x => k (.ok x, s)

/-- Asks for a service. -/
def ask (v : Service) : Sh v.Answer := perform (Proc.ask v)

/-- Looks at the files. -/
def see {α : Type} (f : FileTree → α) : Sh α := perform (Proc.see f)

/-- Starts another process. -/
def fork (child : State → Task) : Sh Nat := fun s k => .fork (child s) fun pid => k (.ok pid, s)

/-- Becomes another process, of which nothing is left. -/
def vanish {α : Type} (task : State → Task) : Sh α := fun s _ => task s

/-- Prints a text, which is written when the command of the shell is over. -/
def print (text : Chars) : Sh Unit := modify fun s => { s with printed := text :: s.printed }

/-- Prints a line. -/
def printLine (text : Chars) : Sh Unit := print (text ++ ['\n'])

/-- Writes what was printed; says whether that was possible. -/
def flush : Sh Bool := do
  let s ← get
  if s.printed.isEmpty then return true
  else
    set { s with printed := [] }
    match ← perform (Proc.write 1 s.printed.reverse.flatten) with
    | .ok () => return true
    | .error _ => return false

/-- Sets the status. -/
def setStatus (status : Nat) : Sh Unit := modify fun s => { s with status }

/-- What a complaint begins with. -/
def complaint (s : State) (message : Chars) : Chars :=
  let label := match s.label with
    | some l => l ++ [':', ' ']
    | none => []
  s.name ++ [':', ' '] ++ (toString s.line).toList ++ [':', ' '] ++ label ++ message ++ ['\n']

/-- Complains. -/
def complain (message : Chars) : Sh Unit := do
  perform (Proc.complain (complaint (← get) message))

/-- Complains and stops. -/
def fail {α : Type} (message : Chars) : Sh α := do
  complain message
  setStatus 2
  throw .fault

/-- Complains of a text and stops. -/
def failWith {α : Type} (message : String) : Sh α := fail message.toList

/-- Complains of a number and stops. -/
def badNumber {α : Type} (word : Chars) : Sh α := fail ("Illegal number: ".toList ++ word)

/-- The number that a word is. -/
def number (word : Chars) : Sh Nat :=
  match intOf? word with
  | some n => if 0 ≤ n ∧ n ≤ 2147483647 then pure n.toNat else badNumber word
  | none => badNumber word

/-- Sets a variable, which must not be fixed. -/
def setVar (name : Chars) (value : Option Chars) (exports : Bool) : Sh Unit := do
  let s ← get
  if s.isFixed name then fail (name ++ ": is read only".toList)
  else
    if name == "OPTIND".toList then
      let _ ← number (value.getD ['1'])
    modify (·.assign name value exports)

/-- Sets a variable to a value. -/
def assign (name value : Chars) : Sh Unit := setVar name (some value) false

/-- The name and the value of an assignment. -/
def splitAssignment (word : Chars) : Chars × Option Chars :=
  let name := word.takeWhile (· != '=')
  (name, if name.length < word.length then some (word.drop (name.length + 1)) else none)

/-- Keeps a variable, or the options for a hyphen, until the innermost command or function is
over. -/
def keep (name : Chars) : Sh Unit := do
  let s ← get
  let kept : Kept := if name = ['-'] then .options s.options else .var name (s.vars.lookup name)
  match s.frames with
  | frame :: frames => set { s with frames := (kept :: frame) :: frames }
  | [] => return

/-- Puts back what was kept. -/
def putBack (s : State) : Kept → State
  | .var name old => s.put name old
  | .options options => { s with options }

/-- Puts back what was kept, until there are so many frames. -/
def unwind (count : Nat) : Sh Unit := modify fun s =>
  let inner := s.frames.take (s.frames.length - count)
  inner.foldl (fun s frame => { frame.foldl putBack s with frames := s.frames.tail }) s

end Sh

end RoundTrip.Shell
