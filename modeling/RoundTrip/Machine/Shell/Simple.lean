import RoundTrip.Machine.Shell.Builtin.Control

/-!
# Simple commands

How a command of assignments, words and redirections is run: its words are expanded, its streams
are redirected, its assignments are done, and then it is a function, a command of the shell or a
program.
-/

namespace RoundTrip.Shell

open Machine

/-- A simple command as far as its words are expanded. -/
structure Expanded where
  /-- All words, as they are shown. -/
  shown : List Chars := []
  /-- The words from the name of the command on. -/
  words : List Chars := []
  /-- What the name stands for. -/
  found : Found := .other
  /-- The search path, if it is not that of the shell. -/
  path : Option (List Path) := none
  /-- Whether the command counts as part of the language of the shell, if it is a command of the
  shell. -/
  special : Option Bool := none
  /-- Whether functions count. -/
  functions : Bool := true
  /-- Whether its assignments are for the command only. -/
  isLocal : Bool := false
  deriving Inhabited

namespace Sh

/-- Expands words until there is a field; gives the fields and the words that are left. -/
def firstFields (run : Runner) : List Word → Sh (List Chars × List Word)
  | [] => return ([], [])
  | w :: rest => do
    match ← expandFields run w with
    | [] => firstFields run rest
    | fields => return (fields, rest)

/-- Reads the options of the command `command`, of which `own` are the words behind it that are
expanded: those that it shows further, whether the system path is used and the words from the
command on that it runs. There is no such command if it has other options or no words. -/
def commandWords (run : Runner) :
    Nat → List Chars → List Word → Bool → Sh (List Chars × List Word × Option (List Chars × Bool))
  | 0, own, rest, _ => return (own, rest, none)
  | fuel + 1, own, rest, standard => do
    let (own, rest) ← match own with
      | [] => firstFields run rest
      | _ => pure (own, rest)
    match own with
    | [] => return (own, rest, none)
    | ['-', '-'] :: more =>
      let (more, rest) ← match more with
        | [] => firstFields run rest
        | _ => pure (more, rest)
      return (own.take 1 ++ more, rest, if more.isEmpty then none else some (more, standard))
    | ('-' :: letters) :: more =>
      if letters.isEmpty then return (own, rest, some (own, standard))
      else if letters.all (· == 'p') then
        let (behind, rest, found) ← commandWords run fuel more rest true
        return (own.take 1 ++ behind, rest, found)
      else return (own, rest, none)
    | words => return (own, rest, some (words, standard))

/-- Looks up what a command is, and what the command is that `command` runs. -/
def lookUpCommand (run : Runner) : Nat → Expanded → List Word → Sh (Expanded × List Word)
  | 0, e, rest => return (e, rest)
  | fuel + 1, e, rest => do
    let s ← get
    let name := e.words.headD []
    let e := { e with found := s.find e.functions name, isLocal := true }
    match e.found with
    | .builtin own =>
      let special := e.special.getD (isSpecial name)
      let e := { e with special := some special, isLocal := e.special.isSome || !special }
      if own ≠ "command" then return (e, rest)
      else
        let (behind, rest, found) ← commandWords run (fuel + rest.length) e.words.tail rest false
        let before := e.shown.take (e.shown.length - e.words.tail.length)
        let e := { e with shown := before ++ behind, words := name :: behind }
        match found with
        | none => return (e, rest)
        | some (words, standard) =>
          let path := if standard then some ((defaultPath.splitOn ':').map pathOf) else e.path
          lookUpCommand run fuel { e with words, path, functions := false } rest
    | _ => return (e, rest)

/-- Expands the words of a simple command. -/
def expandCommand (run : Runner) (words : List Word) : Sh Expanded := do
  let (first, rest) ← firstFields run words
  if first.isEmpty then return {}
  else
    let (e, rest) ← lookUpCommand run (words.length + first.length)
      { shown := first, words := first } rest
    let assigns := match e.found with
      | .builtin name => name ∈ ["export", "readonly", "local"]
      | _ => false
    let fields ← rest.mapM fun w =>
      if assigns && w.isAssignment then do return [← expandAssignment run w]
      else expandFields run w
    return { e with shown := e.shown ++ fields.flatten, words := e.words ++ fields.flatten }

/-- Does the assignments of a simple command; gives their texts. -/
def assignAll (run : Runner) (isLocal exports : Bool) : List Word → Sh (List Chars)
  | [] => return []
  | w :: rest => do
    let text ← expandAssignment run w
    let (name, value) := splitAssignment text
    if isLocal then keep name
    setVar name value (isLocal || exports)
    return text :: (← assignAll run isLocal exports rest)

/-- Shows a command that is run, on the stream that it had before its own redirections, if it has
any. -/
def trace (run : Runner) (redirects : Bool) (words : List Chars) : Sh Unit := do
  let s ← get
  let front := (s.var? "PS4".toList).getD []
  modify fun s => { s with shows := true }
  let front ← if front.any fun c => c ∈ ['$', '\x60', '\\'] then expandQuoted run front
    else pure front
  modify fun s => { s with shows := false }
  let frame := if redirects then s.redirected.head? else none
  let stream := ((frame.bind (·.lookup 2)).join).getD 2
  let _ ← perform (Proc.write stream (front ++ [' '].intercalate words ++ ['\n']))

/-- How many functions may be called within each other. -/
def callLimit : Nat := 1000

/-- Calls a function. -/
def callFunction (run : Runner) (p : Purpose) (body : Cmd) (args : List Chars) : Sh Nat := do
  let s ← get
  if callLimit ≤ s.calls then
    failWith ("Maximum function recursion depth (" ++ toString callLimit ++ ") reached")
  set { s with args, place := {}, loops := 0, calls := s.calls + 1 }
  let stop ← attempt do
    let _ ← run (.command { tested := p.tested } body)
  modify fun t =>
    { t with args := s.args, place := s.place, loops := s.loops, calls := s.calls }
  Builtin.endSkip
  match stop with
  | some stop => throw stop
  | none => return (← get).status

/-- Runs a command of the shell; says why it was stopped, if it was. -/
def runBuiltin (run : Runner) (p : Purpose) (name : String) (words : List Chars) :
    Sh (Option Stop) := do
  let label := (← get).label
  let own := words.headD []
  modify fun s => { s with label := some own }
  let stop ← attempt do
    let command := if name = "eval" then Builtin.eval p
      else (Builtin.all.lookup name).getD (Builtin.always 0)
    let status ← command run own words.tail
    if ← flush then setStatus status
    else
      complain (own ++ ": I/O error".toList)
      setStatus (status ||| 1)
  let _ ← flush
  modify fun s => { s with label }
  return stop

/-- Runs a program, in place of the shell if that ends with it. -/
def runProgram (run : Runner) (p : Purpose) (paths : List Chars) (words : List Chars) :
    Sh Nat := do
  let name := words.headD []
  if p.last && !(← get).hasTraps then become run paths name words.tail
  else
    let _ ← takePlace
    let pid ← fork fun s =>
      become run paths name words.tail s fun (_, s) => .exit (.status (s.status % 256))
    await [pid]

/-- Runs what the words of a command say. -/
def runWords (run : Runner) (p : Purpose) (e : Expanded) : Sh Nat := do
  let isSpecial := e.special.getD false
  match e.found, e.words with
  | _, [] =>
    let status := (← get).outputStatus
    setStatus status
    return status
  | .function body, words => callFunction run p body words.tail
  | .builtin name, words =>
    match ← runBuiltin run p name words with
    | none => return (← get).status
    | some .fault => if isSpecial then throw .fault else return (← get).status
    | some stop => throw stop
  | .other, name :: words =>
    let s ← get
    match ← findPaths (e.path.getD s.searchPath) e.path.isNone name with
    | some paths => runProgram run p paths (name :: words)
    | none =>
      setStatus 127
      if isSpecial then throw .fault
      return 127

/-- Runs a simple command. -/
def runSimple (run : Runner) (p : Purpose) (line : Nat) (assigns words : List Word)
    (redirects : List (Redirect Cmd)) : Sh Nat := do
  ask (.pause 5)
  modify fun s => { s with line, outputStatus := 0 }
  let e ← expandCommand run words
  let frames := (← get).frames.length
  let open_ := (← get).redirected.length
  if e.isLocal then modify fun s => { s with frames := [] :: s.frames }
  let isExec := match e.found with
    | .builtin name => name == "exec"
    | _ => false
  let aims ← aims run redirects
  if !redirects.isEmpty then enterRedirects
  let failed ← redirectSafely run aims
  let status ← if failed ≠ 0 then do
      setStatus failed
      if e.special.getD false then throw .fault
      pure failed
    else do
      let texts ← assignAll run e.isLocal (isExec && 1 < e.words.length) assigns
      if (← get).has 'x' && !(← get).shows then
        trace run (!redirects.isEmpty) (texts ++ e.shown)
      runWords run p e
  if !redirects.isEmpty then leaveRedirects isExec
  unwindRedirects open_
  unwind frames
  return status

end Sh

end RoundTrip.Shell
