import RoundTrip.Machine.Shell.Lookup

/-!
# What the commands of the shell have in common

How they read their options, and the options of the shell itself.
-/

namespace RoundTrip.Shell

open Machine

/-- A command of the shell: from the name that it was called by and its arguments to its status. -/
abbrev Builtin := Runner → Chars → List Chars → Sh Nat

namespace Sh

/-- Reads options: their letters and values, and the other words. `valued` are the letters of those
with a value. -/
def options (plain valued : String) : List Chars → Sh (List (Char × Chars) × List Chars)
  | [] => return ([], [])
  | ['-', '-'] :: rest => return ([], rest)
  | ('-' :: c :: cs) :: rest => letters rest (c :: cs)
  | rest => return ([], rest)
termination_by words => (words.length, 0)
where
  /-- Reads letters behind a hyphen, and the words behind them. -/
  letters (rest : List Chars) : Chars → Sh (List (Char × Chars) × List Chars)
    | [] => options plain valued rest
    | c :: cs => do
      if valued.toList.contains c then
        if !cs.isEmpty then
          let (given, words) ← options plain valued rest
          return ((c, cs) :: given, words)
        else
          match rest with
          | value :: rest =>
            let (given, words) ← options plain valued rest
            return ((c, value) :: given, words)
          | [] => fail ("No arg for -".toList ++ [c] ++ " option".toList)
      else if plain.toList.contains c then
        let (given, words) ← letters rest cs
        return ((c, []) :: given, words)
      else fail ("Illegal option -".toList ++ [c])
  termination_by cs => (rest.length, cs.length + 1)

/-- Sets the arguments of the shell. -/
def setArgs (args : List Chars) : Sh Unit := modify fun s => { s with args, place := {} }

end Sh

/-! ## The options of the shell -/

/-- The options of the shell: their names, and their letters if they have one. -/
def shellOptions : List (String × Option Char) := [
  ("errexit", some 'e'), ("noglob", some 'f'), ("ignoreeof", some 'I'), ("interactive", some 'i'),
  ("monitor", some 'm'), ("noexec", some 'n'), ("stdin", some 's'), ("xtrace", some 'x'),
  ("verbose", some 'v'), ("vi", some 'V'), ("emacs", some 'E'), ("noclobber", some 'C'),
  ("allexport", some 'a'), ("notify", some 'b'), ("nounset", some 'u'), ("privileged", some 'p'),
  ("nolog", none), ("debug", none)]

namespace Sh

/-- Sets an option or takes it back. -/
def setOption (on : Bool) (letter : Char) : Sh Unit := do
  if shellOptions.any fun o => o.2 == some letter then
    modify fun s =>
      let others := s.options.filter fun o => o != letter
        && !(on && ((letter == 'V' && o == 'E') || (letter == 'E' && o == 'V')))
      { s with options := if on then letter :: others else others }
  else fail ("Illegal option -".toList ++ [letter])

/-- Sets an option that is called by its name, or prints all options. -/
def setNamedOption (on : Bool) (name? : Option Chars) : Sh Unit := do
  let s ← get
  let isOn (o : String × Option Char) : Bool := o.2.any s.has
  match name? with
  | none =>
    if on then
      printLine "Current option settings".toList
      for o in shellOptions do
        let gap := List.replicate (16 - o.1.length) ' '
        printLine (o.1.toList ++ gap ++ (if isOn o then "on" else "off").toList)
    else
      for o in shellOptions do
        printLine ((if isOn o then "set -o " else "set +o ").toList ++ o.1.toList)
  | some name =>
    match shellOptions.find? fun o => o.1.toList == name with
    | some (_, some letter) => setOption on letter
    | some (_, none) => return
    | none => fail ("Illegal option -o ".toList ++ name)

/-- Reads the options of the shell at the front of some words: what is left of the words, whether
the arguments are set even if nothing is left, and, if the words are those that the shell was
called with, whether a script is one of them. -/
def shellWords (isCall : Bool) : List Chars → Sh (List Chars × Bool × Bool)
  | [] => return ([], false, false)
  | (sign :: letters) :: rest => do
    if sign ≠ '-' ∧ sign ≠ '+' then return ((sign :: letters) :: rest, false, false)
    else if sign = '-' ∧ (letters = [] ∨ letters = ['-']) then
      if !isCall && letters.isEmpty then
        setOption false 'x'
        setOption false 'v'
      return (rest, letters == ['-'], false)
    else
      let named := letters.contains 'o'
      for c in letters do
        if c = 'o' then setNamedOption (sign == '-') rest.head?
        else if isCall && (c == 'c' || c == 'l') then pure ()
        else setOption (sign == '-') c
      let (words, resets, script) ← shellWords isCall (if named then rest.tail else rest)
      return (words, resets, script || (isCall && letters.contains 'c'))
  | rest => return (rest, false, false)
termination_by words => words.length
decreasing_by
  simp only [List.length_cons]
  split
  · simp only [List.length_tail]; omega
  · omega

end Sh

/-! ## Signals -/

/-- The names of the signals, from that of the end of the shell on, which counts as 0. -/
def signalNames : List String := [
  "EXIT", "HUP", "INT", "QUIT", "ILL", "TRAP", "ABRT", "BUS", "FPE", "KILL", "USR1", "SEGV",
  "USR2", "PIPE", "ALRM", "TERM", "16", "CHLD", "CONT", "STOP", "TSTP", "TTIN", "TTOU", "URG",
  "XCPU", "XFSZ", "VTALRM", "PROF", "WINCH", "IO", "PWR", "SYS", "32", "33", "RTMIN", "RTMIN+1",
  "RTMIN+2", "RTMIN+3", "RTMIN+4", "RTMIN+5", "RTMIN+6", "RTMIN+7", "RTMIN+8", "RTMIN+9",
  "RTMIN+10", "RTMIN+11", "RTMIN+12", "RTMIN+13", "RTMIN+14", "RTMIN+15", "RTMAX-14", "RTMAX-13",
  "RTMAX-12", "RTMAX-11", "RTMAX-10", "RTMAX-9", "RTMAX-8", "RTMAX-7", "RTMAX-6", "RTMAX-5",
  "RTMAX-4", "RTMAX-3", "RTMAX-2", "RTMAX-1", "RTMAX"]

/-- The signal that a number at most as great as the last one is. -/
def signalNumber? (word : Chars) : Option Nat :=
  if isNumeral word then
    let n := digitsValue 10 word
    if n < signalNames.length then some n else none
  else none

/-- The signal that a word is the number or the name of, from a least one on. -/
def signalOf? (least : Nat) (word : Chars) : Option Nat :=
  match signalNumber? word with
  | some n => some n
  | none =>
    let name := String.ofList (word.map Char.toUpper)
    (signalNames.zipIdx.find? fun n => n.1 == name && least ≤ n.2).map Prod.snd

/-! ## The order of names -/

/-- The place of a name in a table of so many rows. -/
def tableRow (rows : Nat) (name : Chars) : Nat :=
  name.foldl (fun n c => n + c.toNat) ((name.head?.map Char.toNat).getD 0 * 16) % rows

/-- Entries with names in the order of a table of so many rows. -/
def inTable {α : Type} (rows : Nat) (entries : List (Chars × α)) : List (Chars × α) :=
  entries.mergeSort fun a b => tableRow rows a.1 ≤ tableRow rows b.1

/-- Entries in the order of their names. -/
def byName {α : Type} (entries : List (Chars × α)) : List (Chars × α) :=
  entries.mergeSort fun a b => textLe a.1 b.1

end RoundTrip.Shell
