import RoundTrip.CommandLine.Request

/-!
# Arguments

The words of a command line are read from the left. Options may stand in front of the name of the
task and behind it; those behind it go before those in front of it. The value of an option is
attached to it or is the next word, and a word that begins with a hyphen is no value. An option may
be given once on each side of the task's name, except for the directories of tools, which add up.

The first request for help ends the reading, unless something in front of it is wrong. A value that
is a word of its own is checked when the next option on its side is read or when the side ends, and
the side in front of the task ends last (`Reading.waiting`).
-/

namespace RoundTrip.CommandLine

/-- What ends the reading of arguments early. -/
inductive Stop where
  /-- Help is asked for. -/
  | help
  /-- The version is asked for. -/
  | version
  /-- The arguments make no sense. -/
  | misuse
  deriving DecidableEq, Inhabited

/-- An option. -/
inductive Switch where
  | verbose | json | config | cacheDir | toolDir | timeoutSecs | reportTo | generation
  | help | version
  deriving DecidableEq

/-- Whether an option has a value. -/
def Switch.takesValue : Switch → Bool
  | .verbose | .json | .help | .version => false
  | _ => true

/-- What a task is called. -/
inductive TaskName where
  | test (generation : Generation)
  | verify
  | suites
  deriving DecidableEq

/-- The names of the tasks. -/
def TaskName.table : List (Bytes × TaskName) :=
  [(Utf8.encode "test32", .test .llvm32), (Utf8.encode "test38", .test .llvm38),
    (Utf8.encode "verify", .verify), (Utf8.encode "suites", .suites)]

/-- The word that asks for help about a task. -/
def helpName : Bytes := Utf8.encode "help"

/-- A side of the name of the task: in front of it, or behind it. -/
inductive Side where
  | front
  | behind (task : TaskName)
  deriving DecidableEq

namespace Side

/-- Whether an option may be given on a side. -/
def allows (side : Side) : Switch → Bool
  | .version => side = .front
  | .generation => side = .behind .verify || side = .behind .suites
  | _ => true

/-- The options by their names. -/
def names : List (String × Switch) :=
  [("verbose", .verbose), ("json", .json), ("config", .config), ("cache-dir", .cacheDir),
    ("tool-dir", .toolDir), ("timeout-secs", .timeoutSecs), ("report-json", .reportTo),
    ("generation", .generation), ("help", .help), ("version", .version)]

/-- The options by their letters. -/
def letters : List (String × Switch) :=
  [("v", .verbose), ("g", .generation), ("h", .help), ("V", .version)]

/-- The option that a table has under a name, if it may be given on a side. -/
def find? (side : Side) (table : List (String × Switch)) (name : Bytes) : Option Switch := do
  let s ← table.lookup (← Utf8.decode? name)
  if side.allows s then some s else none

end Side

/-- What was read on one side. -/
structure Reading where
  /-- The options so far. -/
  options : Options := {}
  /-- The generation, if one was given. -/
  generation : Option Generation := none
  /-- The words that belong to no option. -/
  words : List Bytes := []
  /-- An option with a value that is still to be checked. -/
  waiting : Option (Switch × Bytes) := none
  deriving Inhabited

/-- The path that a value is. -/
def path? (value : Bytes) : Option Path := if value.isEmpty then none else some ⟨value⟩

/-- The number that a value is: digits, perhaps behind a plus sign, of a number below 2^64. -/
def number? (value : Bytes) : Option UInt64 := do
  let digits := match (← Utf8.decode? value).toList with
    | '+' :: rest => rest
    | cs => cs
  let n := Nat.ofDigitChars 10 digits 0
  if !digits.isEmpty && digits.all Char.isDigit && n < UInt64.size then some (.ofNat n) else none

/-- The generation that a value is. -/
def generation? (value : Bytes) : Option Generation := do
  (Generation.ofText (← Utf8.decode? value)).toOption

/-- A value for what has none yet. -/
def once {α : Type} (old new : Option α) : Option (Option α) :=
  match old with
  | none => new.map some
  | some _ => none

namespace Reading

/-- Takes in an option with a value, if it has none yet and the value makes sense. -/
def put? (r : Reading) (value : Bytes) : Switch → Option Reading
  | .config => do
    return { r with options.config := ← once r.options.config (path? value) }
  | .cacheDir => do
    return { r with options.cacheDir := ← once r.options.cacheDir (path? value) }
  | .reportTo => do
    return { r with options.reportTo := ← once r.options.reportTo (path? value) }
  | .toolDir => do
    return { r with options.toolDirs := r.options.toolDirs ++ [← path? value] }
  | .timeoutSecs => do
    return { r with options.timeoutSecs := ← once r.options.timeoutSecs (number? value) }
  | .generation => do
    return { r with generation := ← once r.generation (generation? value) }
  | _ => none

/-- Takes in an option with a value. -/
def put (r : Reading) (s : Switch) (value : Bytes) : Except Stop Reading :=
  match r.put? value s with
  | some r => .ok r
  | none => .error .misuse

/-- Checks the value that waits. -/
def settle (r : Reading) : Except Stop Reading :=
  match r.waiting with
  | none => .ok r
  | some (s, value) => { r with waiting := none }.put s value

/-- Takes in an option that has no value. -/
def raise (r : Reading) (s : Switch) : Except Stop Reading := do
  let r ← r.settle
  match s with
  | .help => .error .help
  | .version => .error .version
  | .verbose =>
    if r.options.verbose then .error .misuse else .ok { r with options.verbose := true }
  | .json => if r.options.json then .error .misuse else .ok { r with options.json := true }
  | _ => .error .misuse

/-- Takes in an option with a value that is attached to it. -/
def give (r : Reading) (s : Switch) (value : Bytes) : Except Stop Reading := do
  (← r.settle).put s value

/-- Takes in an option with a value that is a word of its own. -/
def await (r : Reading) (s : Switch) (value : Bytes) : Except Stop Reading := do
  return { ← r.settle with waiting := some (s, value) }

/-- Takes in a word that belongs to no option. -/
def addWord (r : Reading) (t : TaskName) (word : Bytes) : Except Stop Reading := do
  let r ← r.settle
  let fits := match t with
    | .test _ => (Utf8.decode? word).isSome
    | .verify => r.words.isEmpty && !word.isEmpty
    | .suites => false
  if fits then .ok { r with words := r.words ++ [word] } else .error .misuse

end Reading

/-- The hyphen, which options begin with. -/
def hyphen : UInt8 := 0x2D

/-- The sign between an option and a value that is attached to it. -/
def equals : UInt8 := 0x3D

/-- The form of an argument. -/
inductive Form where
  /-- A word. -/
  | word
  /-- Two hyphens: all that follows are words. -/
  | dashes
  /-- The name of an option, perhaps with a value. -/
  | named (name : Bytes) (value : Option Bytes)
  /-- The letters of options, the last of which perhaps has a value. -/
  | lettered (letters : Bytes)
  deriving DecidableEq

/-- The form of an argument. -/
def Form.of : Bytes → Form
  | a :: b :: rest =>
    if a ≠ hyphen then .word
    else if b ≠ hyphen then .lettered (b :: rest)
    else
      match rest, rest.dropWhile (· ≠ equals) with
      | [], _ => .dashes
      | _, [] => .named rest none
      | _, _ :: value => .named (rest.takeWhile (· ≠ equals)) (some value)
  | _ => .word

/-- Reads an option by its name: what was read, and the option if its value is still to come. -/
def readName (side : Side) (name : Bytes) (value : Option Bytes) (r : Reading) :
    Except Stop (Reading × Option Switch) :=
  match side.find? Side.names name, value with
  | none, _ => .error .misuse
  | some s, some value =>
    if s.takesValue then (r.give s value).map (·, none) else .error .misuse
  | some s, none => if s.takesValue then .ok (r, some s) else (r.raise s).map (·, none)

/-- Reads options by their letters: what was read, and the last option if its value is still to
come. -/
def readLetters (side : Side) : Bytes → Reading → Except Stop (Reading × Option Switch)
  | [], r => .ok (r, none)
  | b :: rest, r =>
    match side.find? Side.letters [b] with
    | none => .error .misuse
    | some s =>
      if s.takesValue then
        match rest with
        | [] => .ok (r, some s)
        | c :: value => (r.give s (if c = equals then value else rest)).map (·, none)
      else do readLetters side rest (← r.raise s)

/-- Reads the options of an argument: what was read, and an option whose value is still to
come. -/
def readOptions (side : Side) (r : Reading) : Form → Except Stop (Reading × Option Switch)
  | .named name value => readName side name value r
  | .lettered letters => readLetters side letters r
  | .word | .dashes => .ok (r, none)

/-- Reads the arguments on one side of the task's name, which is the first of those that are left
if the side is the one in front of it. -/
def readSide (side : Side) : List Bytes → Reading → Except Stop (Reading × List Bytes)
  | [], r => .ok (r, [])
  | arg :: rest, r => do
    match Form.of arg, side with
    | .word, .front => return (r, arg :: rest)
    | .word, .behind t => readSide side rest (← r.addWord t arg)
    | .dashes, .front => .error .misuse
    | .dashes, .behind t => return (← rest.foldlM (·.addWord t) r, [])
    | form, _ =>
      match ← readOptions side r form, rest with
      | (r, none), rest => readSide side rest r
      | (_, some _), [] => .error .misuse
      | (r, some s), value :: rest =>
        if Form.of value = .word then readSide side rest (← r.await s value)
        else .error .misuse
termination_by structural args => args

/-- What is asked for by the words behind the one that asks for help. -/
def readHelp : List Bytes → Stop
  | [] => .help
  | [name] => if name = helpName || (TaskName.table.lookup name).isSome then .help else .misuse
  | _ => .misuse

/-- The cache root that is set by a variable of the environment, unless the options give it on
both sides: the variable is looked at for each of them. -/
def cacheDirOf (fromEnv : Option Bytes) (front behind : Options) : Except Stop (Option Path) :=
  match front.cacheDir, behind.cacheDir, fromEnv with
  | some _, some _, _ | _, _, none => .ok none
  | _, _, some value =>
    match path? value with
    | some dir => .ok (some dir)
    | none => .error .misuse

/-- The task of a name with what was read behind it. -/
def TaskName.task? : TaskName → Reading → Option Task
  | .test g, r => return .test g (← r.words.mapM Utf8.decode?)
  | .verify, { words := [dir], generation, .. } => some (.verify ⟨dir⟩ (generation.getD .llvm38))
  | .verify, _ => none
  | .suites, r => some (.list r.generation)

/-- The request that arguments make, where a variable of the environment may set the cache
root. -/
def readRequest (args : List Bytes) (fromEnv : Option Bytes) : Except Stop Request := do
  let (front, rest) ← readSide .front args {}
  match rest with
  | [] => .error .misuse
  | name :: rest =>
    if name = helpName then .error (readHelp rest)
    else
      match TaskName.table.lookup name with
      | none => .error .misuse
      | some t =>
        let (behind, _) ← readSide (.behind t) rest {}
        let behind ← behind.settle
        let front ← front.settle
        let cacheDir ← cacheDirOf fromEnv front.options behind.options
        match t.task? behind with
        | none => .error .misuse
        | some task =>
          .ok ⟨(behind.options.before front.options).before { cacheDir }, task⟩

end RoundTrip.CommandLine
