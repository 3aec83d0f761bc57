import RoundTrip.Machine.Shell.Simple

/-!
# Running scripts

A script is run command by command. What is left to do is bounded by a number of steps, which no
script comes near, since time passes with every command (`Shell.run`). A shell is a program like
others (`startProgram`).
-/

namespace RoundTrip.Shell

open Machine

namespace Sh

/-! ## Signals -/

/-- Deals with signals that have arrived, each in the order of their numbers; at most `count`. -/
def dealWith (run : Runner) (status : Nat) : Nat → Sh Unit
  | 0 => return
  | count + 1 => do
    let s ← get
    match s.arrived with
    | [] => return
    | signal :: rest =>
      if s.skip ≠ .none then return
      else
        set { s with arrived := rest }
        match s.traps.lookup signal with
        | none => pure ()
        | some text =>
          let _ ← Builtin.runText run {} { rest := text }
          if (← get).skip ≠ .giveBack true then setStatus status
        dealWith run status count

/-- Deals with the signals that have arrived. -/
def dealWithSignals (run : Runner) : Sh Unit := do
  let s ← get
  if s.arrived.isEmpty && !s.traps.any (fun t => t.1 != 0 && !t.2.isEmpty) then return
  else
    let noted : List Nat ← ask .noted
    let all := s.arrived ++ noted.filter fun n => !s.arrived.contains n
    if all.isEmpty then return
    else
      let status := s.kept.getD s.status
      set { s with arrived := all.mergeSort (· ≤ ·), kept := some status }
      dealWith run status all.length
      modify fun t => { t with kept := s.kept }

/-! ## Loops -/

/-- What a loop does about the commands that are passed over: whether it is left. -/
def leavesLoop : Sh Bool := do
  let s ← get
  match s.skip with
  | .none => return false
  | .giveBack _ => return true
  | .leave n =>
    if n ≤ 1 then set { s with skip := .none } else set { s with skip := .leave (n - 1) }
    return true
  | .again n =>
    if n ≤ 1 then
      set { s with skip := .none }
      return false
    else
      set { s with skip := .again (n - 1) }
      return true

/-- Whether commands are passed over. -/
def skips : Sh Bool := do return (← get).skip ≠ .none

/-- One round of a loop, and the rest of it. -/
def runLoop (run : Runner) (p : Purpose) (isUntil : Bool) (test body : Cmd) (status : Nat) :
    Sh Nat := do
  ask (.pause 1)
  let found ← run (.command { tested := true } test)
  let isReturn := (← get).skip = .giveBack true
  let skipped ← skips
  if ← leavesLoop then return if isReturn then found else status
  else if skipped then run (.loop p isUntil test body status)
  else if (found = 0) == isUntil then return status
  else
    let status ← run (.command p body)
    if ← leavesLoop then return status else run (.loop p isUntil test body status)

/-- Runs a command for each of some words. -/
def runEach (run : Runner) (p : Purpose) (name : Chars) (body : Cmd) (status : Nat) :
    List Chars → Sh Nat
  | [] => return status
  | word :: rest => do
    assign name word
    let status ← run (.command p body)
    if ← leavesLoop then return status else runEach run p name body status rest

/-! ## Choices -/

/-- Whether one of some patterns stands for a text. -/
def anyMatches (run : Runner) (text : Chars) : List Word → Sh Bool
  | [] => return false
  | w :: rest => do
    if isMatch (← expandPattern run w) text then return true else anyMatches run text rest

/-- Runs the first case whose patterns stand for a text. -/
def runCases (run : Runner) (p : Purpose) (text : Chars) : List (List Word × Cmd) → Sh Nat
  | [] => return 0
  | (patterns, body) :: rest => do
    if ← anyMatches run text patterns then
      match body with
      | .nothing => return 0
      | body => run (.command p body)
    else runCases run p text rest

/-! ## Shells of their own -/

/-- Runs a command in a shell of its own. -/
def runSub (run : Runner) (p : Purpose) (line : Nat) (body : Cmd)
    (redirects : List (Redirect Cmd)) : Sh Nat := do
  modify fun s => { s with line }
  let aims ← aims run redirects
  let redirected : Sh Unit := do
    for (stream, aim) in aims do redirect run stream aim
  if p.last && !(← get).hasTraps then
    modify fun s => { s with loops := 0, skip := .none, redirected := [] }
    redirected
    run (.command { p with last := true } body)
  else
    let _ ← takePlace
    await [← start run redirected p body]

/-- Runs a command that nobody waits for. -/
def runBackground (run : Runner) (line : Nat) (body : Cmd) (redirects : List (Redirect Cmd)) :
    Sh Nat := do
  modify fun s => { s with line }
  let aims ← aims run redirects
  let place ← takePlace
  let pid ← start run (do
    detach true
    for (stream, aim) in aims do redirect run stream aim) {} body
  addJob place [pid]
  return 0

/-- Starts the commands of a pipe; gives their processes. `behind` says that there is one in front
of them. -/
def startPipe (run : Runner) (p : Purpose) (background : Bool) :
    Bool → List Cmd → Sh (List Nat)
  | _, [] => return []
  | behind, c :: rest => do
    let ahead := !rest.isEmpty
    if ahead then ask (.pipe pipeReader pipeWriter)
    let prepare : Sh Unit := do
      if background then detach !behind
      if ahead then ask (.close pipeReader)
      if behind then
        let _ : Bool ← ask (.copy nextReader 0)
        ask (.close nextReader)
      if ahead then
        let _ : Bool ← ask (.copy pipeWriter 1)
        ask (.close pipeWriter)
    let pid ← start run prepare p c
    if behind then ask (.close nextReader)
    if ahead then
      let _ : Bool ← ask (.copy pipeReader nextReader)
      ask (.close pipeReader)
      ask (.close pipeWriter)
    return pid :: (← startPipe run p background true rest)

/-- Runs a pipe. -/
def runPipe (run : Runner) (p : Purpose) (cmds : List Cmd) (background : Bool) : Sh Nat := do
  let place ← takePlace
  let pids ← startPipe run p background false cmds
  if background then
    addJob place pids
    return 0
  else await pids

/-! ## Commands -/

/-- Runs a command, but for what is done in front of and behind all commands: gives the status, and
whether a strict shell ends if that is not 0. -/
def runBare (run : Runner) (p : Purpose) (c : Cmd) : Sh (Nat × Bool) := do
  let own : Purpose := { tested := p.tested }
  let set_ (status : Nat) : Sh (Nat × Bool) := do
    setStatus status
    return (status, false)
  let strict (status : Nat) : Sh (Nat × Bool) := do
    setStatus status
    return (status, !p.tested)
  match c with
  | .nothing => return (0, false)
  | .simple line assigns words redirects =>
    strict (← runSimple run p line assigns words redirects)
  | .pipe cmds background => strict (← runPipe run p cmds background)
  | .background line body redirects => strict (← runBackground run line body redirects)
  | .sub line body redirects => strict (← runSub run p line body redirects)
  | .redirected line body redirects =>
    modify fun s => { s with line }
    let aims ← aims run redirects
    enterRedirects
    let failed ← redirectSafely run aims
    let status ← if failed ≠ 0 then pure failed else run (.command own body)
    leaveRedirects false
    set_ status
  | .not body =>
    let status ← run (.command { tested := true } body)
    set_ (if ← skips then status else if status = 0 then 1 else 0)
  | .andThen a b =>
    let status ← run (.command { tested := true } a)
    if status ≠ 0 || (← skips) then return (status, false)
    else set_ (← run (.command p b))
  | .orElse a b =>
    let status ← run (.command { tested := true } a)
    if status = 0 || (← skips) then return (status, false)
    else set_ (← run (.command p b))
  | .seq a b =>
    let status ← run (.command own a)
    if ← skips then return (status, false)
    else set_ (← run (.command p b))
  | .cond test yes no =>
    let status ← run (.command { tested := true } test)
    if ← skips then return (status, false)
    else
      match if status = 0 then yes else no with
      | .nothing => set_ 0
      | c => set_ (← run (.command p c))
  | .loop isUntil test body =>
    modify fun s => { s with loops := s.loops + 1 }
    let status ← run (.loop own isUntil test body 0)
    modify fun s => { s with loops := s.loops - 1 }
    set_ status
  | .each line name words body =>
    modify fun s => { s with line }
    let fields ← words.mapM (expandFields run)
    modify fun s => { s with loops := s.loops + 1 }
    let status ← runEach run own name body 0 fields.flatten
    modify fun s => { s with loops := s.loops - 1 }
    set_ status
  | .choose line word cases =>
    modify fun s => { s with line }
    let text ← expandText run { tilde := true } word
    set_ (← runCases run p text cases)
  | .define name body =>
    modify fun s => { s with functions := (name, body) :: s.functions.filter (·.1 != name) }
    set_ 0

/-- Runs a command. -/
def runCommand (run : Runner) (p : Purpose) (c : Cmd) : Sh Nat := do
  if (← get).has 'n' then return 0
  else
    dealWithSignals run
    let (status, strict) ← runBare run p c
    dealWithSignals run
    if strict && status != 0 && (← get).has 'e' then throw .finish
    if p.last then throw .finish
    return status

/-! ## Scripts -/

/-- Shows the lines that were read of a script, from one place up to the end of the line of
another. -/
def showLines (before after : Chars) : Sh Unit := do
  let count := before.length - after.length
  let more := (after.takeWhile (· != '\n')).length + 1
  let isWhole := count = 0 || (before.drop (count - 1)).head? == some '\n'
  perform (Proc.complain (before.take (if isWhole then count else count + more)))

/-- Runs the next command of a script, and the rest of it. -/
def runScript (run : Runner) (p : Purpose) (r : Reader) (status : Nat) : Sh Nat := do
  let s ← get
  match { r with aliases := s.aliases, texts := s.texts }.command? with
  | .error ⟨line, fault⟩ =>
    modify fun s => { s with line, scriptLine := line }
    failWith ("Syntax error: " ++ fault.text)
  | .ok (none, _) => return status
  | .ok (some c, next) =>
    set { s with texts := next.texts, scriptLine := next.line }
    if r.isFile && s.has 'v' then showLines r.rest next.rest
    match c with
    | .nothing => run (.script p next status)
    | c =>
      let status ← run (.command { p with last := p.last && next.isAtEnd } c)
      if ← skips then return status else run (.script p next status)

/-! ## Shells as programs -/

/-- The variables that a shell begins with. -/
def firstVars (vars : List (Chars × Chars)) (parent : Nat) (here : Chars) : List (Chars × Var) :=
  let given := (vars.filter fun v => isName v.1).map fun (name, value) =>
    (name, ({ value := some value, exported := true } : Var))
  let own : List (Chars × Var) := [
    ("IFS".toList, { value := some defaultSeparators }),
    ("OPTIND".toList, { value := some ['1'] }), ("PS1".toList, { value := some ['#', ' '] }),
    ("PS2".toList, { value := some ['>', ' '] }), ("PS4".toList, { value := some ['+', ' '] }),
    ("PATH".toList, { value := some defaultPath }),
    ("PPID".toList, { value := some (toString parent).toList }),
    ("PWD".toList, { value := some here, exported := true })]
  let isSet (name : Chars) : Bool :=
    (["IFS", "OPTIND", "PPID", "PWD"].map String.toList).contains name
  let kept := given.filter fun v => !isSet v.1
  kept ++ own.filter fun v => !kept.any fun w => w.1 == v.1

/-- What a shell does that was called with some words. -/
def runCall (run : Runner) (words : List Chars) : Sh Unit := do
  let (words, _, hasScript) ← shellWords true words
  let start (p : Purpose) (isFile : Bool) (text : Chars) : Sh Unit := do
    let _ ← run (.script p { rest := text.filter (· != '\x00'), isFile } 0)
  if hasScript then
    match words with
    | [] => failWith "-c requires an argument"
    | script :: rest =>
      modify fun s => { s with name := rest.headD s.name, args := rest.tail }
      start { last := !(← get).has 's' } false script
  else
    match if (← get).has 's' then [] else words with
    | [] =>
      modify fun s =>
        { s with args := words, options := if s.has 's' then s.options else 's' :: s.options }
      let read : Except Reason Bytes ← ask (.read 0 .all)
      match read with
      | .ok bytes => start {} true (charsOf bytes)
      | .error _ => return
    | file :: args =>
      match ← see fun files => files.node (pathOf file) with
      | .error r => fail ("cannot open ".toList ++ file ++ [':', ' '] ++ openPhrase .read r)
      | .ok node =>
        modify fun s => { s with name := file, args }
        match node with
        | .file content _ => start {} true (charsOf content)
        | _ => return

/-- A shell that is called. -/
def shellTask (run : Runner) (call : Call) : Task :=
  .ask .identity fun (pid, parent) =>
    .files fun files =>
      let own := charsOf files.here.bytes
      let here := match call.vars.lookup "PWD".toList with
        | some path => if path.head? == some '/' && pathFromRoot files path then path else own
        | none => own
      let s : State :=
        { name := call.name, pid, vars := firstVars call.vars parent here, here }
      (files, task run (runCall run call.args) s)
where
  /-- Whether a path leads to the working directory. -/
  pathFromRoot (files : FileTree) (path : Chars) : Bool :=
    match files.landing true (pathOf path) with
    | .ok (.found place _) => place == files.cwd
    | _ => false

/-- A program that is started. -/
def programTask (run : Runner) (l : Loaded) (call : Call) : Task :=
  .ask .become fun _ =>
    if l.program = shellName then shellTask run call
    else
      match programs.lookup l.program with
      | some program => program call fun status => .exit (.status (status % 256))
      | none => .exit (.status 126)

end Sh

/-- How many steps a shell runs at most. -/
def runLimit : Nat := 1000000000

/-- Does what is left to do in a number of steps. -/
def run : Nat → Runner
  | 0, _ => throw .finish
  | steps + 1, .command p c => Sh.runCommand (run steps) p c
  | steps + 1, .script p r status => Sh.runScript (run steps) p r status
  | steps + 1, .loop p isUntil test body status =>
    Sh.runLoop (run steps) p isUntil test body status
  | steps + 1, .start l call => Sh.vanish fun _ => Sh.programTask (run steps) l call

/-- A program that was loaded. -/
def startProgram (l : Loaded) (call : Call) : Task := Sh.programTask (run runLimit) l call

end RoundTrip.Shell
