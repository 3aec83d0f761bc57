import RoundTrip.Machine.Programs

/-!
# Starting programs

A file is started as the program that its content names, or, if it begins with `#!`, as a script of
the program that its first line names. Programs without a slash in their names are looked up in the
directories of the search path.
-/

namespace RoundTrip.Machine

/-- A program that is about to be started. -/
structure Loaded where
  /-- The name of the program. -/
  program : String
  /-- The path of the interpreter of a script, if it is one. -/
  interpreter : Option Chars
  /-- The arguments in front of those of the call. -/
  args : List Chars
  deriving Inhabited

/-- How much of a file is looked at to find its interpreter. -/
def scriptHead : Nat := 256

/-- Whether a character separates the words of the first line of a script. -/
def isSpaceOrTab (c : Char) : Bool := c == ' ' || c == '\t'

/-- The interpreter in the first line of a script, and the argument for it. A zero byte ends the
line, and so does the end of what is looked at if it stands behind the interpreter. -/
def interpreterOf? (content : Bytes) : Option (Chars × Option Chars) :=
  match charsOf (content.take scriptHead) with
  | '#' :: '!' :: rest =>
    let line := rest.takeWhile fun c => c != '\n' && c != '\x00'
    let ended := (rest.drop line.length).head? == some '\n'
    let words := line.dropWhile isSpaceOrTab
    let name := words.takeWhile fun c => !isSpaceOrTab c
    let isCut := content.length ≥ scriptHead && line.length == rest.length
      && name.length == words.length
    let arg := (words.drop name.length).dropWhile isSpaceOrTab
    let arg := if ended then (arg.reverse.dropWhile isSpaceOrTab).reverse
      else arg.take (scriptHead - 3 - (line.length - arg.length))
    if name.isEmpty || isCut then none
    else some (name, if arg.isEmpty then none else some arg)
  | _ => none

/-- The program that the file at a path is started as; scripts of scripts are followed `depth`
times. -/
def load (files : FileTree) : Nat → Path → Except Reason Loaded
  | depth, path =>
    match files.node path with
    | .error r => .error r
    | .ok (.file content mode) =>
      if (Node.file content mode).isExecutable then
        match programName? content with
        | some program => .ok ⟨program, none, []⟩
        | none =>
          match interpreterOf? content with
          | none => .error (.errno .execFormat)
          | some (interpreter, arg) =>
            match depth with
            | 0 => .error (.errno .tooManyLinks)
            | depth + 1 => do
              let l ← load files depth (pathOf interpreter)
              .ok { l with
                interpreter := some (l.interpreter.getD interpreter)
                args := l.args ++ arg.toList ++ [charsOf path.bytes] }
      else .error (.errno .accessDenied)
    | .ok _ => .error (.errno .accessDenied)

/-- How deeply scripts of scripts may nest. -/
def scriptDepth : Nat := 5

/-- The program that a name stands for, of which `path` is the search path. -/
def lookUp (files : FileTree) (path : List Path) (name : Path) : Except Reason (Path × Loaded) :=
  let direct (p : Path) : Except Reason (Path × Loaded) := (load files scriptDepth p).map (p, ·)
  if name.bytes.contains Path.slash then direct name
  else
    let tries := path.map fun dir => (dir.join name, (load files scriptDepth (dir.join name)))
    let isMissing : Reason → Bool
      | .errno .noEntry | .errno .notDirectory => true
      | _ => false
    let present := tries.filter fun t => match t.2 with
      | .error r => !isMissing r
      | .ok _ => true
    let usable := present.find? fun t => match t.2 with
      | .error (.errno .accessDenied) => false
      | _ => true
    match usable, present with
    | some (p, .ok l), _ => .ok (p, l)
    | some (_, .error r), _ => .error r
    | none, _ :: _ => .error (.errno .accessDenied)
    | none, [] => .error (.errno .noEntry)

/-- The length from which on an argument is too long. -/
def wordLimit : Nat := 131072

/-- How much room there is for all arguments. -/
def roomLimit : Nat := 2097152

/-- Whether there is no room for the arguments and variables of a program. -/
def isTooLong (words : List Chars) (vars : List (Chars × Chars)) : Bool :=
  let sizes := words.map List.length ++ vars.map fun v => v.1.length + v.2.length + 1
  sizes.any (wordLimit ≤ ·) || roomLimit < sizes.foldl (fun sum n => sum + n + 9) 0

/-- The call of a program that was looked up by a name. -/
def Loaded.call (l : Loaded) (name : Chars) (args : List Chars) (vars : List (Chars × Chars)) :
    Call :=
  ⟨l.interpreter.getD name, l.args ++ args, vars⟩

end RoundTrip.Machine
