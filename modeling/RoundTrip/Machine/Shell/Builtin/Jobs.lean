import RoundTrip.Machine.Shell.Builtin.Basic

/-!
# Jobs and signals

The commands of the shell that deal with processes that nobody waits for, and with signals.
-/

namespace RoundTrip.Shell

open Machine

namespace Job

/-- Whether all processes of a job have ended. -/
def isDone (j : Job) : Bool := j.processes.all fun p => p.2.isSome

/-- The number of the last process of a job. -/
def lastPid (j : Job) : Nat := (j.processes.getLast?.map Prod.fst).getD 0

/-- The job behind the ends of some processes. -/
def behind (j : Job) (ended : List (Nat × Exit)) : Job :=
  { j with processes := j.processes.map fun p => (p.1, p.2 <|> ended.lookup p.1) }

/-- How a job is doing. -/
def state (j : Job) : String :=
  if !j.isDone then "Running"
  else
    match j.processes.getLast?.bind Prod.snd with
    | some (.status 0) | none => "Done"
    | some (.status n) => "Done(" ++ toString n ++ ")"
    | some (.signal n) => Sh.signalPhrase n

end Job

namespace Sh

/-- Takes a free place for a job: the job that was there, if any, is done and known. -/
def takePlace : Sh Nat := do
  let jobs := (← get).jobs
  let isFree (n : Nat) : Bool :=
    match jobs.find? fun j => j.number == n with
    | none => true
    | some j => j.isDone && j.known
  let place := ((List.range (jobs.length + 1)).map (· + 1)).find? isFree
  let number := place.getD (jobs.length + 1)
  modify fun s => { s with jobs := s.jobs.filter fun j => j.number != number }
  return number

/-- Adds a job that nobody waits for. -/
def addJob (number : Nat) (pids : List Nat) : Sh Unit := modify fun s =>
  { s with
    jobs := { number, processes := pids.map (·, none) } :: s.jobs
    lastBackground := pids.getLast? }

/-- Takes notice of the ends of some processes. -/
def notice (ended : List (Nat × Exit)) : Sh Unit := modify fun s =>
  { s with jobs := s.jobs.map (·.behind ended) }

/-- The job that a word stands for, or the last one. -/
def jobOf (word? : Option Chars) : Sh Job := do
  let jobs := (← get).jobs
  let found (message : String) : Option Job → Sh Job
    | some j => return j
    | none => failWith message
  match word? with
  | none | some ['%'] | some ['%', '%'] | some ['%', '+'] => found "No current job" jobs.head?
  | some ['%', '-'] => found "No previous job" jobs.tail.head?
  | some word =>
    let text := word.drop 1
    let message := "No such job: " ++ String.ofList word
    if isNumeral text then
      found message (jobs.find? fun j => word.head? == some '%' && j.number == digitsValue 10 text)
    else found message none

/-- Waits until a job is done, or until a signal arrives that is dealt with; at most `count`
processes are waited for. -/
def waitForJob : Nat → Job → Sh (Option Job)
  | 0, j => return some j
  | count + 1, j => do
    if j.isDone then return some j
    else
      let running := (j.processes.filter fun p => p.2.isNone).map Prod.fst
      let waited : Waited ← ask (.wait running true)
      match waited with
      | .ended pid e =>
        sayPhrase e
        notice [(pid, e)]
        waitForJob count (j.behind [(pid, e)])
      | .nobody => return some j
      | .interrupted => return none

/-- Waits until all jobs are done, or until a signal arrives that is dealt with; says whether they
are done. At most `count` processes are waited for. -/
def waitForAll : Nat → Sh Bool
  | 0 => return true
  | count + 1 => do
    let jobs := (← get).jobs
    let running := jobs.flatMap fun j => (j.processes.filter fun p => p.2.isNone).map Prod.fst
    if running.isEmpty then return true
    else
      let waited : Waited ← ask (.wait running true)
      match waited with
      | .ended pid e =>
        notice [(pid, e)]
        waitForAll count
      | .nobody => return true
      | .interrupted => return false

end Sh

namespace Builtin

/-- The status of a wait that a signal has ended. -/
def interruptedStatus : Sh Nat := do
  let noted : List Nat ← Sh.ask .noted
  modify fun s => { s with arrived := s.arrived ++ noted.filter fun n => !s.arrived.contains n }
  return 128 + ((← get).arrived.getLast?.getD 0)

/-- Waits for the jobs that words stand for; gives the status of the last one. -/
def waitForEach (status : Nat) : List Chars → Sh Nat
  | [] => return status
  | word :: rest => do
    let job? ← if word.head? = some '%' then some <$> Sh.jobOf (some word)
      else do
        let pid ← Sh.number word
        pure ((← get).jobs.find? fun j => j.lastPid == pid)
    match job? with
    | none => waitForEach status rest
    | some job =>
      match ← Sh.waitForJob job.processes.length job with
      | none => interruptedStatus
      | some job =>
        modify fun s =>
          { s with jobs := s.jobs.map fun j =>
              if j.number == job.number then { job with known := true } else j }
        waitForEach (Sh.statusOf job.processes) rest

/-- The command `wait`. -/
def wait : Builtin := fun _ _ args => do
  let (_, words) ← Sh.options "" "" args
  if words.isEmpty then
    let jobs := (← get).jobs
    let count := (jobs.map fun j => j.processes.length).foldl (· + ·) 0
    if ← Sh.waitForAll count then
      modify fun s => { s with jobs := s.jobs.map fun j => { j with known := true } }
      return 0
    else interruptedStatus
  else waitForEach 127 words

/-- The command `jobs`. -/
def jobs_ : Builtin := fun _ _ args => do
  let (given, words) ← Sh.options "lp" "" args
  let pids := (← get).jobs.flatMap fun j => j.processes.map Prod.fst
  let ended : List (Nat × Exit) ← Sh.ask (.reap pids)
  Sh.notice ended
  let all := (← get).jobs
  let asked ← if words.isEmpty then pure all else words.mapM fun w => Sh.jobOf (some w)
  let kind := given.getLast?.map Prod.fst
  for j in asked do
    let first := (j.processes.head?.map Prod.fst).getD 0
    if kind = some 'p' then Sh.printLine (toString first).toList
    else
      let isLast := all.head?.any fun k => k.number == j.number
      let isBefore := all.tail.head?.any fun k => k.number == j.number
      let sign := if isLast then '+' else if isBefore then '-' else ' '
      let front := "[".toList ++ (toString j.number).toList ++ [']', ' ', sign, ' ']
      let front := if kind = some 'l' then front ++ (toString first).toList ++ [' '] else front
      let text := front ++ j.state.toList
      let pipes := (j.processes.drop 1).flatMap fun _ => [' ', '|', ' ']
      let pipes := if kind = some 'l' then [] else pipes
      Sh.printLine (text ++ List.replicate (33 - text.length) ' ' ++ pipes)
      if j.isDone then
        modify fun s => { s with jobs := s.jobs.filter fun k => k.number != j.number }
  return 0

/-- The commands `fg` and `bg`: no job can be taken up again. -/
def resume : Builtin := fun _ _ args => do
  let (_, words) ← Sh.options "" "" args
  let _ ← Sh.jobOf words.head?
  let name := words.headD "(null)".toList
  Sh.fail ("job ".toList ++ name ++ " not created under job control".toList)

/-! ## Signals -/

/-- Complains of how `kill` is called. -/
def refuseKill : Sh Nat := Sh.failWith
  "Usage: kill [-s sigspec | -signum | -sigspec] [pid | job]... or\nkill -l [exitstatus]"

/-- Lists signals. -/
def listSignals (words : List Chars) : Sh Nat := do
  match words with
  | [] =>
    Sh.printLine ['0']
    for name in signalNames.tail do Sh.printLine name.toList
  | word :: _ =>
    let n ← Sh.number word
    let signal := if 128 < n then n - 128 else n
    match if signal = 0 then none else signalNames[signal]? with
    | some name => Sh.printLine name.toList
    | none => Sh.fail ("invalid signal number or exit status: ".toList ++ word)
  return 0

/-- Sends a signal to the processes that words stand for. -/
def send (signal : Nat) (words : List Chars) : Sh Nat :=
  words.foldlM (fun status word => do
    let pid? ← match word with
      | '%' :: _ => do
        let _ ← Sh.jobOf (some word)
        pure none
      | '-' :: group => do
        let _ ← Sh.number group
        pure none
      | word => some <$> Sh.number word
    let sent : Bool ← match pid? with
      | some pid => Sh.ask (.kill pid signal)
      | none => pure false
    if sent then return status
    else
      Sh.complain "No such process\n".toList
      return 1) 0

/-- The command `kill`. -/
def kill : Builtin := fun _ _ args => do
  let begin_ (lists : Bool) (signal : Option Nat) (words : List Chars) : Sh Nat := do
    let signal := if !lists && signal.isNone then some 15 else signal
    if lists then
      if signal.isSome && !words.isEmpty then refuseKill else listSignals words
    else if words.isEmpty then refuseKill
    else send (signal.getD 15) words
  match args with
  | [] => refuseKill
  | ('-' :: word) :: rest =>
    match signalOf? 1 word with
    | some signal => begin_ false (some signal) rest
    | none =>
      let (given, words) ← Sh.options "l" "s" args
      let mut signal : Option Nat := none
      for (letter, value) in given do
        if letter = 's' then
          match signalOf? 1 value with
          | some n => signal := some n
          | none => Sh.fail ("invalid signal number or name: ".toList ++ value)
      begin_ (given.any fun o => o.1 == 'l') signal words
  | words => begin_ false none words

/-- What becomes of a signal for which there is something to do. -/
def reactionTo : Option Chars → Reaction
  | none => .die
  | some [] => .ignore
  | some _ => .note

/-- The command `trap`. -/
def trap : Builtin := fun _ _ args => do
  let (_, words) ← Sh.options "" "" args
  match words with
  | [] =>
    for (name, n) in signalNames.zipIdx do
      match (← get).traps.lookup n with
      | some text => Sh.printLine ("trap -- ".toList ++ singleQuoted text ++ [' '] ++ name.toList)
      | none => pure ()
    return 0
  | first :: rest =>
    let resets := rest.isEmpty || (signalNumber? first).isSome
    let action := if resets || first = ['-'] then none else some first
    for word in if resets then words else rest do
      match signalOf? 0 word with
      | none =>
        Sh.perform (Proc.complain ("trap: ".toList ++ word ++ ": bad trap\n".toList))
        return 1
      | some signal =>
        modify fun s =>
          let others := s.traps.filter fun t => t.1 != signal
          { s with traps := (action.map (signal, ·)).toList ++ others }
        if signal ≠ 0 then Sh.ask (.react signal (reactionTo action))
    return 0

end Builtin

end RoundTrip.Shell
