import RoundTrip.Machine.Condition
import RoundTrip.Machine.Shell.Builtin.Basic

/-!
# The surroundings of a shell

The commands of the shell that print, test, and deal with directories, permissions, limits and what
names stand for.
-/

namespace RoundTrip.Shell

open Machine

namespace Builtin

/-! ## Printing and testing -/

/-- The command `echo`. -/
def echo_ : Builtin := fun _ _ args => do
  Sh.print (shellEcho args)
  return 0

/-- The command `printf`. -/
def printf_ : Builtin := fun _ _ args => do
  let (_, words) ← Sh.options "" "" args
  match words with
  | [] => Sh.failWith "usage: printf format [arg ...]"
  | format :: values =>
    let p := printFormat .shell format values
    Sh.print p.output
    for fault in p.faults.reverse do
      if fault.isFatal then Sh.fail (fault.text .shell) else Sh.complain (fault.text .shell)
    return if p.faults.isEmpty then 0 else 1

/-- The commands `test` and `[`. -/
def test_ : Builtin := fun _ name args => do
  let closes := name == ['[']
  if closes && !args.getLast?.any (fun w => w.head? == some ']') then Sh.failWith "missing ]"
  let words := if closes then args.dropLast else args
  match ← Sh.see fun files => Condition.holds files words with
  | .ok true => return 0
  | .ok false => return 1
  | .error fault => Sh.fail fault.text

/-! ## Directories -/

/-- A directory as it is called behind another one: steps up take back names. Two slashes at its
front are kept. -/
def pathFrom (here dest : Chars) : Chars :=
  let base := if dest.head? == some '/' then [] else here
  let front := if dest.head? == some '/' then dest else here
  let isDouble := front.take 2 == ['/', '/'] && front[2]? != some '/'
  let pieces := (base.splitOn '/' ++ dest.splitOn '/').filter fun p => !p.isEmpty && p != ['.']
  let names := pieces.foldl (fun names p => if p = ['.', '.'] then names.dropLast else names ++ [p])
    ([] : List Chars)
  (if isDouble then ['/', '/'] else ['/']) ++ ['/'].intercalate names

/-- Makes a directory the working directory, and says whether that is possible. -/
def enter (path : Chars) : Sh Bool :=
  Sh.perform (Proc.change fun t =>
    match t.landing true (pathOf path) with
    | .ok (.found place (.dir _)) => ({ t with cwd := place }, true)
    | _ => (t, false))

/-- The path of the working directory. -/
def realHere : Sh Chars := Sh.see fun files => charsOf files.here.bytes

/-- Whether a directory is looked for in no other place than it says. -/
def isDirect (dest : Chars) : Bool :=
  dest.head? == some '/' || (dest.takeWhile (· != '/')) ∈ [['.'], ['.', '.']]

/-- The command `cd`. -/
def cd : Builtin := fun _ _ args => do
  let (given, words) ← Sh.options "LP" "" args
  let real := (given.getLast?.map Prod.fst) == some 'P'
  let s ← get
  let back := words.head? == some ['-']
  let called := if back then none else words.head?
  let dest := match words with
    | ['-'] :: _ => (s.var? "OLDPWD".toList).getD []
    | word :: _ => word
    | [] => (s.var? "HOME".toList).getD []
  let direct := isDirect dest
  let dest := if dest.isEmpty then ['.'] else dest
  let tries := if direct then [] else
    (((s.var? "CDPATH".toList).map fun p => p.splitOn ':').getD [[]]).map fun dir =>
      (dir, if dir.isEmpty then dest else dir ++ ['/'] ++ dest)
  let found? ← Sh.see fun files => tries.find? fun t => files.isDir (pathOf t.2)
  let (shown, path) := match found? with
    | some (dir, path) => (!dir.isEmpty, path)
    | none => (false, dest)
  let path := if real then path else pathFrom s.here path
  if !(← enter path) then Sh.fail ("can't cd to ".toList ++ called.getD dest)
  let here ← if real then realHere else pure path
  Sh.setVar "OLDPWD".toList (some s.here) true
  Sh.setVar "PWD".toList (some here) true
  modify fun s => { s with here }
  if shown || back then Sh.printLine here
  return 0

/-- The command `pwd`. -/
def pwd_ : Builtin := fun _ _ args => do
  let (given, _) ← Sh.options "LP" "" args
  let real := (given.getLast?.map Prod.fst) == some 'P'
  let s ← get
  Sh.printLine (← if real then realHere else pure s.here)
  return 0

/-! ## Permissions -/

/-- The permissions that a class of users has, as letters. -/
def modeLetters (bits : Nat) : Chars :=
  (if bits &&& 4 != 0 then ['r'] else []) ++ (if bits &&& 2 != 0 then ['w'] else [])
    ++ (if bits &&& 1 != 0 then ['x'] else [])

/-- Changes permissions as letters say; `none` if they say nothing. At most `fuel` changes are
done. -/
def changeMode (old : Nat) : Nat → Nat → Chars → Option Nat
  | 0, _, _ => none
  | _, new, [] => some new
  | fuel + 1, new, text =>
    let who := text.takeWhile fun c => c ∈ ['a', 'u', 'g', 'o']
    let places := who.foldl (fun n c =>
      n ||| (if c = 'a' then 0o111 else if c = 'u' then 0o100 else if c = 'g' then 0o010 else 1)) 0
    let places := if places = 0 then 0o111 else places
    actions places fuel new (text.drop who.length)
where
  /-- The changes for some classes of users. -/
  actions (places : Nat) (fuel new : Nat) (text : Chars) : Option Nat :=
    match fuel, text with
    | fuel + 1, op :: rest =>
      if op ∈ ['=', '+', '-'] then
        let letters := rest.takeWhile fun c => c ∈ ['r', 'w', 'x', 'u', 'g', 'o', 'X', 's']
        let bits := letters.foldl (fun n c => n ||| (match c with
          | 'r' => 4
          | 'w' => 2
          | 'x' => 1
          | 'u' => old >>> 6
          | 'g' => old >>> 3
          | 'o' => old
          | 'X' => if old &&& 0o111 != 0 then 1 else 0
          | _ => 0)) 0
        let value := (bits &&& 7) * places
        let new := match op with
          | '-' => new &&& (0o777 - (value &&& 0o777))
          | '=' => value ||| (new &&& (0o777 - ((places * 7) &&& 0o777)))
          | _ => new ||| value
        match rest.drop letters.length with
        | [] => some new
        | ',' :: more => changeMode old fuel new more
        | more => if more.head?.any fun c => c ∈ ['=', '+', '-'] then actions places fuel new more
          else none
      else none
    | _, _ => none

/-- The command `umask`. -/
def umask : Builtin := fun _ _ args => do
  let (given, words) ← Sh.options "S" "" args
  let mask : Nat ← Sh.ask (.mask none)
  match words with
  | [] =>
    if given.isEmpty then
      let digits := Nat.toDigits 8 mask
      Sh.printLine (List.replicate (4 - digits.length) '0' ++ digits)
    else
      let allowed := 0o777 - (mask &&& 0o777)
      let part (who : Char) (shift : Nat) : Chars :=
        who :: '=' :: modeLetters ((allowed >>> shift) &&& 7)
      Sh.printLine ([','].intercalate [part 'u' 6, part 'g' 3, part 'o' 0])
    return 0
  | word :: _ =>
    if word.head?.any Char.isDigit then
      if !word.all isOctal then Sh.badNumber word
      let _ : Nat ← Sh.ask (.mask (some (digitsValue 8 word &&& 0o777)))
    else
      let old := 0o777 - (mask &&& 0o777)
      match changeMode old (word.length + 1) old word with
      | some new =>
        let _ : Nat ← Sh.ask (.mask (some (0o777 - (new &&& 0o777))))
      | none => Sh.fail ("Illegal mode: ".toList ++ word)
    return 0

/-! ## Limits and times -/

/-- The command `ulimit`: nothing is limited. -/
def ulimit : Builtin := fun _ _ args => do
  let (given, words) ← Sh.options "HSatfdscmlpnvwr" "" args
  if words.isEmpty && !given.any fun o => o.1 == 'a' then Sh.printLine "unlimited".toList
  return 0

/-- The command `times`: no time is measured. -/
def times : Builtin := fun _ _ _ => do
  for _ in [(), ()] do Sh.printLine "0m0.000000s 0m0.000000s".toList
  return 0

/-! ## What names stand for -/

/-- The command `type`. -/
def type_ : Builtin := fun _ _ args =>
  args.foldlM (fun status name => do return status ||| (← Sh.describe none true name)) 0

/-- The command `command`, where it only says what a name stands for. -/
def command_ : Builtin := fun _ _ args => do
  let (given, words) ← Sh.options "pvV" "" args
  let has (c : Char) : Bool := given.any fun o => o.1 == c
  match words with
  | name :: _ =>
    if has 'v' || has 'V' then
      let path := if has 'p' then some ((defaultPath.splitOn ':').map pathOf) else none
      Sh.describe path (has 'V') name
    else return 0
  | [] => return 0

/-- The command `hash`. -/
def hash_ : Builtin := fun _ _ args => do
  let (given, words) ← Sh.options "r" "" args
  if !given.isEmpty then
    modify fun s => { s with hashed := [] }
    return 0
  else if words.isEmpty then
    for (_, path) in inTable 31 (← get).hashed do Sh.printLine path
    return 0
  else
    let mut status := 0
    for name in words do
      let s ← get
      match s.find true name with
      | .other => if (← Sh.findPaths s.searchPath true name).isNone then status := 1
      | _ => pure ()
    return status

end Builtin

end RoundTrip.Shell
