import RoundTrip.Machine.Shell.Process

/-!
# Finding commands

What a shell knows of a name: it may be a keyword, an alias, a function, a command of the shell, or
a program in one of the directories of the search path, whose path is remembered.
-/

namespace RoundTrip.Shell

open Machine

/-- The search path that the shell has if none is set. -/
def defaultPath : Chars := "/usr/local/sbin:/usr/local/bin:/usr/sbin:/usr/bin:/sbin:/bin".toList

/-- The commands of the shell besides those that count as part of its language. -/
def plainNames : List String :=
  ["[", "alias", "bg", "cd", "chdir", "command", "echo", "false", "fg", "getopts", "hash", "jobs",
    "kill", "printf", "pwd", "read", "test", "true", "type", "ulimit", "umask", "unalias", "wait"]

/-- A text in single quotes, of which at most `pieces` are read that have quotes behind them. -/
def singleQuotedUpTo : Nat → Chars → Chars
  | 0, _ => []
  | pieces + 1, text =>
    let plain := text.takeWhile (· != '\'')
    let quotes := (text.drop plain.length).takeWhile (· == '\'')
    let rest := text.drop (plain.length + quotes.length)
    '\'' :: plain ++ ['\''] ++ (if quotes.isEmpty then [] else '"' :: quotes ++ ['"'])
      ++ (if rest.isEmpty then [] else singleQuotedUpTo pieces rest)

/-- A text in single quotes; those within it are put into double quotes. -/
def singleQuoted (text : Chars) : Chars := singleQuotedUpTo (text.length + 1) text

/-- What a name stands for. -/
inductive Found where
  /-- A function. -/
  | function (body : Cmd)
  /-- A command of the shell. -/
  | builtin (name : String)
  /-- Nothing that the shell knows of. -/
  | other
  deriving Inhabited

/-- Whether a command counts as part of the language of the shell. -/
def isSpecial (name : Chars) : Bool := specialNames.any fun n => n.toList == name

/-- What a shell knows of a name; functions are passed over unless `functions`. -/
def State.find (s : State) (functions : Bool) (name : Chars) : Found :=
  match if functions then s.functions.lookup name else none with
  | some body => .function body
  | none =>
    match (specialNames ++ plainNames).find? fun n => n.toList == name with
    | some n => .builtin n
    | none => .other

/-- The paths that a name may stand for. -/
def candidates (path : List Path) (name : Chars) : List Chars :=
  if name.contains '/' then [name] else path.map fun dir => charsOf (dir.join (pathOf name)).bytes

/-- The paths from the first one on at which there is a program, or why there is none. -/
def findProgram (files : FileTree) : Reason → List Chars → Except Reason (List Chars)
  | r, [] => .error r
  | r, p :: rest =>
    match files.node (pathOf p) with
    | .ok (.file content mode) =>
      if (Node.file content mode).isExecutable then .ok (p :: rest)
      else findProgram files (.errno .accessDenied) rest
    | .ok _ => findProgram files (.errno .accessDenied) rest
    | .error e =>
      findProgram files (if e = .errno .noEntry ∨ e = .errno .notDirectory then r else e) rest

/-- What is said of a reason that a program is not started for. -/
def startPhrase : Reason → Chars
  | .errno .noEntry | .errno .notDirectory => "not found".toList
  | r => reasonPhrase r

/-- The status of a shell that cannot become a program. -/
def startStatus : Reason → Nat
  | .errno .noEntry | .errno .notDirectory | .errno .tooManyLinks | .errno .nameTooLong => 127
  | _ => 126

/-- The program that the first of some paths is started as at which there is one; a file that is
none is a script of the shell. -/
def loadFirst (files : FileTree) (words : List Chars) (vars : List (Chars × Chars)) :
    Reason → List Chars → Except Reason Loaded
  | r, [] => .error r
  | r, p :: rest =>
    if isTooLong words vars then .error (.errno .argumentListTooLong)
    else
      match load files scriptDepth (pathOf p) with
      | .ok l => .ok l
      | .error (.errno .execFormat) => .ok ⟨shellName, some "/bin/sh".toList, [p]⟩
      | .error e =>
        let r := if e = .errno .noEntry ∨ e = .errno .notDirectory then r else e
        loadFirst files words vars r rest

namespace Sh

/-- Remembers the first of the paths that a command may be started from. -/
def rememberPath (name : Chars) (paths : List Chars) : Sh Unit :=
  modify fun s =>
    { s with hashed := s.hashed.filter (·.1 != name) ++ [(name, paths.headD name)] }

/-- The paths that a command may be started from, which are remembered if `remembers`; complains if
there are none. -/
def findPaths (path : List Path) (remembers : Bool) (name : Chars) : Sh (Option (List Chars)) := do
  if name.contains '/' then return some [name]
  else
    let all := candidates path name
    match ← see fun files => findProgram files (.errno .noEntry) all with
    | .ok paths =>
      if remembers then rememberPath name paths
      return some paths
    | .error r =>
      modify fun s => { s with hashed := s.hashed.filter (·.1 != name) }
      complain (name ++ [':', ' '] ++ startPhrase r)
      return none

/-- Becomes the program at one of some paths. -/
def become (run : Runner) (paths : List Chars) (name : Chars) (args : List Chars) : Sh Nat := do
  let vars := (← get).exported
  match ← see fun files => loadFirst files (name :: args) vars (.errno .noEntry) paths with
  | .ok l => run (.start l (l.call name args vars))
  | .error r =>
    complain (name ++ [':', ' '] ++ startPhrase r)
    setStatus (startStatus r)
    throw .finish

/-- Says what a name stands for, with `path` as the search path; `verbose` says that it is said in
words. -/
def describe (path : Option (List Path)) (verbose : Bool) (name : Chars) : Sh Nat := do
  let s ← get
  let answer (words : String) (brief : Chars) : Sh Nat := do
    printLine (if verbose then name ++ words.toList else brief)
    return 0
  let program (tracked : Bool) (p : Chars) : Sh Nat := do
    let words := if tracked then " is a tracked alias for ".toList else " is ".toList
    printLine (if verbose then name ++ words ++ p else p)
    return 0
  let missing : Sh Nat := do
    if verbose then printLine (name ++ ": not found".toList)
    return 127
  if keywords.any fun k => k.toList == name then answer " is a shell keyword" name
  else
    match s.aliases.lookup name with
    | some text =>
      printLine (if verbose then name ++ " is an alias for ".toList ++ text
        else "alias ".toList ++ name ++ ['='] ++ singleQuoted text)
      return 0
    | none =>
      match s.find true name, path, s.hashed.lookup name with
      | .function _, _, _ => answer " is a shell function" name
      | .builtin _, _, _ =>
        answer (if isSpecial name then " is a special shell builtin" else " is a shell builtin") name
      | .other, none, some p => program true p
      | .other, _, _ =>
        let all := candidates (path.getD s.searchPath) name
        if name.contains '/' then
          if ← see fun files => (files.node? (pathOf name)).isSome then program false name
          else missing
        else
          match ← see fun files => findProgram files (.errno .noEntry) all with
          | .ok paths =>
            if path.isNone then rememberPath name paths
            program false (paths.headD name)
          | .error _ => missing

end Sh

end RoundTrip.Shell
