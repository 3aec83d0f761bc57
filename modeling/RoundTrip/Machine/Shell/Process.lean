import RoundTrip.Machine.Shell.State

/-!
# Shells as processes

A shell starts shells of its own, waits for them, and takes in what they write. How a shell runs
what is left to do (`Work`) is a parameter here (`Runner`): it is for the interpreter.
-/

namespace RoundTrip.Shell

open Machine

/-- What a command is run for. -/
structure Purpose where
  /-- Whether it succeeds is looked at, so its failure is none of the shell. -/
  tested : Bool := false
  /-- The shell ends with it. -/
  last : Bool := false
  deriving DecidableEq, Inhabited

/-- What is left to do for a shell. -/
inductive Work where
  /-- A command. -/
  | command (p : Purpose) (c : Cmd)
  /-- The rest of a script; `status` is that of the last command in it. -/
  | script (p : Purpose) (r : Reader) (status : Nat)
  /-- The next round of a loop; `status` is that of the last round. -/
  | loop (p : Purpose) (isUntil : Bool) (test body : Cmd) (status : Nat)
  /-- A program that the shell becomes. -/
  | start (l : Loaded) (call : Call)

/-- How a shell does what is left to do: it gives the status. -/
abbrev Runner := Work → Sh Nat

/-! ## The end of a shell -/

namespace Sh

/-- Forgets what was kept of the time before the shell began to exit; that is the status again if
it was asked to exit, or to return from what it does at its end. -/
def settle (isExit : Bool) : Sh Unit := modify fun s =>
  let status := if isExit || s.skip == .giveBack false then s.kept.getD s.status else s.status
  { s with status, kept := none, skip := .none, loops := 0 }

/-- Does something, and gives why it was stopped, if it was. -/
def attempt (body : Sh Unit) : Sh (Option Stop) :=
  tryCatch (do
    body
    return none) fun stop => return some stop

/-- Does something as the whole of a shell, with what is to be done when the shell exits. -/
def wholly (run : Runner) (body : Sh Unit) : Sh Unit := do
  let stop ← attempt body
  if stop.isSome then settle (stop == some .exit)
  let s ← get
  set { s with kept := some s.status }
  match s.traps.lookup 0 with
  | none => settle (stop == some .exit)
  | some text =>
    modify fun s => { s with traps := s.traps.filter (·.1 != 0), skip := .none }
    let last ← attempt do
      let _ ← run (.script {} { rest := text } 0)
      modify fun s => { s with skip := .giveBack false }
    settle ((last <|> stop) == some .exit)

/-- The process of a shell. -/
def task (run : Runner) (body : Sh Unit) (s : State) : Task :=
  wholly run body s fun (_, s) => .exit (.status (s.status % 256))

/-! ## Shells of its own -/

/-- The streams that a shell uses to read and write pipes. -/
def pipeReader : Nat := 60

/-- The stream that a shell writes to a pipe. -/
def pipeWriter : Nat := 61

/-- The stream that a shell reads the pipe behind a command of a pipe from. -/
def nextReader : Nat := 62

/-- Starts a shell of its own for a command, after some preparation; gives its number. -/
def start (run : Runner) (prepare : Sh Unit) (p : Purpose) (c : Cmd) : Sh Nat := do
  let signals := ((← get).traps.filter fun t => !t.2.isEmpty && t.1 != 0).map Prod.fst
  let body : Sh Unit := do
    for signal in signals do ask (.react signal .die)
    prepare
    let _ ← run (.command { p with last := true } c)
  fork fun s => task run body s.subshell

/-- What is done in front of a command that nobody waits for. -/
def detach (isFirst : Bool) : Sh Unit := do
  ask (.react 2 .ignore)
  ask (.react 3 .ignore)
  if isFirst then
    let _ ← ask (.openFile (Path.ofText "/dev/null") .read 0)

/-! ## Waiting -/

/-- What is said of a program that a signal has killed. -/
def signalPhrase (signal : Nat) : String :=
  match signal with
  | 1 => "Hangup"
  | 3 => "Quit"
  | 4 => "Illegal instruction"
  | 5 => "Trace/breakpoint trap"
  | 6 => "Aborted"
  | 7 => "Bus error"
  | 8 => "Floating point exception"
  | 9 => "Killed"
  | 10 => "User defined signal 1"
  | 11 => "Segmentation fault"
  | 12 => "User defined signal 2"
  | 14 => "Alarm clock"
  | 15 => "Terminated"
  | 16 => "Stack fault"
  | 24 => "CPU time limit exceeded"
  | 25 => "File size limit exceeded"
  | 26 => "Virtual timer expired"
  | 27 => "Profiling timer expired"
  | 29 => "I/O possible"
  | 30 => "Power failure"
  | 31 => "Bad system call"
  | n => if 34 ≤ n then "Real-time signal " ++ toString (n - 34) else "Unknown signal " ++ toString n

/-- Says what has killed a program, unless that was an interrupt or a broken pipe. -/
def sayPhrase (e : Exit) : Sh Unit :=
  match e with
  | .signal n =>
    if n = 2 ∨ n = 13 then pure ()
    else perform (Proc.complain (signalPhrase n ++ "\n").toList)
  | .status _ => pure ()

/-- Waits until at most `count` more processes of some have ended. -/
def waitFor : Nat → List (Nat × Option Exit) → Sh (List (Nat × Option Exit))
  | 0, ps => return ps
  | count + 1, ps => do
    let running := (ps.filter fun p => p.2.isNone).map Prod.fst
    if running.isEmpty then return ps
    else
      let waited : Waited ← ask (.wait running false)
      match waited with
      | .ended pid e =>
        sayPhrase e
        waitFor count (ps.map fun p => if p.1 == pid then (pid, some e) else p)
      | _ => return ps

/-- The status of processes that were started together: that of the last one. -/
def statusOf (ps : List (Nat × Option Exit)) : Nat :=
  ((ps.getLast?.bind Prod.snd).map Exit.seen).getD 0

/-- Waits for some processes, and gives the status of the last one. -/
def await (pids : List Nat) : Sh Nat := do
  return statusOf (← waitFor pids.length (pids.map (·, none)))

/-! ## Output -/

/-- A text without the ends of lines at its end. -/
def withoutLineEnds (text : Chars) : Chars := (text.reverse.dropWhile (· == '\n')).reverse

/-- What a command writes, without zero bytes and the ends of lines at its end. -/
def outputOf (run : Runner) (c : Cmd) : Sh Chars := do
  match c with
  | .nothing => return []
  | c =>
    ask (.pipe pipeReader pipeWriter)
    let prepare : Sh Unit := do
      ask (.close pipeReader)
      let _ ← ask (.copy pipeWriter 1)
      ask (.close pipeWriter)
    let pid ← start run prepare {} c
    ask (.close pipeWriter)
    let bytes : Except Reason Bytes ← ask (.read pipeReader .all)
    ask (.close pipeReader)
    let status ← await [pid]
    modify fun s => { s with outputStatus := status }
    match bytes with
    | .ok bytes => return withoutLineEnds ((charsOf bytes).filter (· != '\x00'))
    | .error _ => return []

end Sh

end RoundTrip.Shell
