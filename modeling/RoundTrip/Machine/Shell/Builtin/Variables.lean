import RoundTrip.Machine.Shell.Builtin.Basic

/-!
# Variables and arguments

The commands of the shell that set variables, options, arguments and aliases.
-/

namespace RoundTrip.Shell

open Machine

namespace Builtin

/-! ## Variables -/

/-- Prints variables in the order of their names. -/
def listVars (verb : Chars) (test : Var → Bool) : Sh Nat := do
  let front := if verb.isEmpty then [] else verb ++ [' ']
  for (name, v) in byName ((← get).vars.filter fun v => test v.2) do
    let value := match v.value with
      | some text => '=' :: singleQuoted text
      | none => []
    Sh.printLine (front ++ name ++ value)
  return 0

/-- Sets a variable that a word names or assigns a value to. -/
def define (word : Chars) (exports : Bool) : Sh Chars := do
  let (name, value) := Sh.splitAssignment word
  if !isName name then Sh.fail (name ++ ": bad variable name".toList)
  Sh.setVar name value exports
  return name

/-- The commands that mark variables. -/
def markVars : Builtin := fun _ verb args => do
  let fixes := verb == "readonly".toList
  let (given, words) ← Sh.options "p" "" args
  if !given.isEmpty || words.isEmpty then
    listVars verb fun v => if fixes then v.fixed else v.exported
  else
    for word in words do
      let (name, value) := Sh.splitAssignment word
      match (← get).vars.lookup name, value with
      | some _, none => pure ()
      | _, _ =>
        let _ ← define word !fixes
      modify fun s =>
        match s.vars.lookup name with
        | some v =>
          let marked := { v with fixed := v.fixed || fixes, exported := v.exported || !fixes }
          { s with vars := s.vars.map fun w => if w.1 == name then (name, marked) else w }
        | none => s
    return 0

/-- The command `local`. -/
def local_ : Builtin := fun _ _ args => do
  if (← get).frames.isEmpty then Sh.failWith "not in a function"
  for word in args do
    let (name, value) := Sh.splitAssignment word
    Sh.keep name
    if name ≠ ['-'] then
      match (← get).vars.lookup name, value with
      | some _, none => pure ()
      | _, _ =>
        let _ ← define word false
  return 0

/-- The command `unset`. -/
def unset : Builtin := fun _ _ args => do
  let (given, words) ← Sh.options "vf" "" args
  let functions := (given.getLast?.map Prod.fst) == some 'f'
  for word in words do
    if functions then
      modify fun s => { s with functions := s.functions.filter (·.1 != word) }
    else
      let name ← define (word.takeWhile (· != '=')) false
      modify fun s => s.put name none
  return 0

/-! ## Arguments and options -/

/-- The command `set`. -/
def set_ : Builtin := fun _ _ args => do
  if args.isEmpty then listVars [] fun v => v.value.isSome
  else
    let (words, resets, _) ← Sh.shellWords false args
    if resets || !words.isEmpty then Sh.setArgs words
    return 0

/-- The command `shift`. -/
def shift : Builtin := fun _ _ args => do
  let count ← match args with
    | word :: _ => Sh.number word
    | [] => pure 1
  let own := (← get).args
  if own.length < count then Sh.failWith "can't shift that many"
  Sh.setArgs (own.drop count)
  return 0

/-- The next option of some words: the option, its value, how far the words are read then, and
whether there is none. -/
structure NextOption where
  /-- The option, or what stands for it. -/
  letter : Char
  /-- The value, unless it is left as it is; `none` inside takes it back. -/
  value : Option (Option Chars) := none
  /-- What is wrong. -/
  complaint : Chars := []
  /-- How many words are read. -/
  index : Nat
  /-- How many letters of the last one are read. -/
  letters : Option Nat := none
  /-- Whether there is no option. -/
  ended : Bool := false

/-- How an option stands in a list of options: whether it is there, and whether it has a value. -/
def optionKind (letter : Char) : Chars → Option Bool
  | [] => none
  | c :: rest =>
    let valued := rest.head? == some ':'
    if c = letter then some valued
    else optionKind letter (if valued then rest.tail else rest)
termination_by spec => spec.length
decreasing_by
  simp only [List.length_cons]
  split
  · simp only [List.length_tail]; omega
  · omega

/-- Reads the next option. -/
def nextOption (spec : Chars) (words : List Chars) (p : OptionPlace) : NextOption :=
  let ind := p.index
  let isQuiet := spec.head? == some ':'
  let current := words.getD (ind - 2) []
  let inside := match p.letters with
    | some off => if ind ≤ 1 ∨ current.length < off then [] else current.drop off
    | none => []
  let start : Option (Chars × Nat) :=
    if !inside.isEmpty then some (inside, ind)
    else
      match words[ind - 1]? with
      | some ('-' :: '-' :: []) => none
      | some ('-' :: c :: cs) => some (c :: cs, ind + 1)
      | _ => none
  match start with
  | none =>
    let index := if words[ind - 1]? == some ['-', '-'] then ind + 1 else ind
    { letter := '?', index, ended := true }
  | some ([], index) => { letter := '?', index, ended := true }
  | some (c :: cs, index) =>
    let letters := if cs.isEmpty then some ((words.getD (index - 2) []).length)
      else some ((words.getD (index - 2) []).length - cs.length)
    match optionKind c spec with
    | none =>
      if isQuiet then { letter := '?', value := some (some [c]), index, letters }
      else
        { letter := '?', value := some none, index, letters
          complaint := "Illegal option -".toList ++ [c] ++ ['\n'] }
    | some false => { letter := c, value := some (some []), index, letters }
    | some true =>
      if !cs.isEmpty then { letter := c, value := some (some cs), index }
      else
        match words[index - 1]? with
        | some value => { letter := c, value := some (some value), index := index + 1 }
        | none =>
          if isQuiet then { letter := ':', value := some (some [c]), index, letters }
          else
            { letter := '?', value := some none, index, letters
              complaint := "No arg for -".toList ++ [c] ++ " option\n".toList }

/-- The command `getopts`. -/
def getopts : Builtin := fun _ _ args => do
  match args with
  | spec :: name :: own =>
    let s ← get
    let words := if own.isEmpty then s.args else own
    let place : OptionPlace := if words.length + 1 < s.place.index then {} else s.place
    let next := nextOption spec words place
    if !next.complaint.isEmpty then Sh.perform (Proc.complain next.complaint)
    let optarg := "OPTARG".toList
    match next.value with
    | some (some value) => Sh.assign optarg value
    | some none => modify fun s => s.put optarg none
    | none => pure ()
    Sh.assign "OPTIND".toList (toString next.index).toList
    modify fun s => { s with place := { index := next.index, letters := next.letters } }
    Sh.assign name [next.letter]
    return if next.ended then 1 else 0
  | _ => Sh.failWith "Usage: getopts optstring var [arg...]"

/-! ## Reading -/

/-- What is read of a line: runs of which the escaped characters are whole, and whether another
line follows. -/
def lineRuns (raw : Bool) : Chars → List Run → Chars → List Run × Bool
  | soft, runs, [] => (⟨.soft, soft.reverse.map .char⟩ :: runs, false)
  | soft, runs, '\x00' :: rest => lineRuns raw soft runs rest
  | soft, runs, ['\n'] => (⟨.soft, soft.reverse.map .char⟩ :: runs, false)
  | soft, runs, '\\' :: rest =>
    if raw then lineRuns raw ('\\' :: soft) runs rest
    else
      let runs : List Run := ⟨.soft, soft.reverse.map .char⟩ :: runs
      match rest with
      | [] => (runs, true)
      | ['\n'] => (runs, true)
      | c :: rest => lineRuns raw [] (⟨.whole, [.escaped c]⟩ :: runs) rest
  | soft, runs, c :: rest => lineRuns raw (c :: soft) runs rest

/-- Reads a line and those that it is joined to; says whether it was complete. -/
def readRuns (raw : Bool) : Nat → List Run → Sh (List Run × Bool)
  | 0, runs => return (runs, false)
  | lines + 1, runs => do
    let read : Except Reason Bytes ← Sh.ask (.read 0 .line)
    match read with
    | .error _ => return (runs, false)
    | .ok bytes =>
      let text := charsOf bytes
      let (runs, more) := lineRuns raw [] runs text
      if text.getLast? ≠ some '\n' then return (runs, false)
      else if more then readRuns raw lines runs
      else return (runs, true)

/-- The command `read`. -/
def read : Builtin := fun _ _ args => do
  let (given, names) ← Sh.options "r" "p" args
  if names.isEmpty then Sh.failWith "arg count"
  let (runs, complete) ← readRuns (given.any fun o => o.1 == 'r') readLimit []
  let values := fieldsOf (← get).separators (some names.length) runs.reverse
  for (name, i) in names.zipIdx do
    if !isName name then Sh.fail (name ++ ": bad variable name".toList)
    Sh.assign name (textOf (values.getD i []))
  return if complete then 0 else 1

/-! ## Aliases -/

/-- Prints an alias. -/
def printAlias (a : Chars × Chars) : Sh Unit := Sh.printLine (a.1 ++ ['='] ++ singleQuoted a.2)

/-- The command `alias`. -/
def alias_ : Builtin := fun _ _ args => do
  if args.isEmpty then
    for a in inTable 39 (← get).aliases do printAlias a
    return 0
  else
    let mut status := 0
    for word in args do
      let name := word.take 1 ++ (word.drop 1).takeWhile (· != '=')
      if name.length < word.length then
        let a := (name, word.drop (name.length + 1))
        modify fun s =>
          let others := s.aliases.filter (·.1 != name)
          let isNew := others.length == s.aliases.length
          { s with aliases := if isNew then s.aliases ++ [a]
              else s.aliases.map fun b => if b.1 == name then a else b }
      else
        match (← get).aliases.lookup word with
        | some text => printAlias (word, text)
        | none =>
          Sh.perform (Proc.complain ("alias: ".toList ++ word ++ " not found\n".toList))
          status := 1
    return status

/-- The command `unalias`. -/
def unalias : Builtin := fun _ _ args => do
  let (given, names) ← Sh.options "a" "" args
  if !given.isEmpty then
    modify fun s => { s with aliases := [] }
    return 0
  else
    let mut status := 0
    for name in names do
      if ((← get).aliases.lookup name).isSome then
        modify fun s => { s with aliases := s.aliases.filter (·.1 != name) }
      else
        Sh.perform (Proc.complain ("unalias: ".toList ++ name ++ " not found\n".toList))
        status := 1
    return status

end Builtin

end RoundTrip.Shell
