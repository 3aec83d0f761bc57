import RoundTrip.Machine.Task

/-!
# Scripts

The commands of a script and the words that they consist of. A word is a list of parts: characters,
marks where quotes were, parameters, commands whose output is put in, and arithmetic. The text that
a redirection takes from the following lines has a number and is kept apart from the command, since
it is read after it.
-/

namespace RoundTrip.Shell

open Machine

/-- What is done with the value of a parameter. -/
inductive ParamOp where
  /-- It is put in. -/
  | value
  /-- Its length is put in. -/
  | length
  /-- The operand is put in instead if the parameter is unset (or, with a colon, empty). -/
  | orElse (colon : Bool)
  /-- As `orElse`, and the operand becomes the value. -/
  | assign (colon : Bool)
  /-- The operand is put in if the parameter is set (and, with a colon, not empty). -/
  | instead (colon : Bool)
  /-- The shell stops with the operand as a complaint if the parameter is unset (or, with a colon,
  empty). -/
  | demand (colon : Bool)
  /-- It is put in without an end that the operand stands for. -/
  | dropEnd (longest : Bool)
  /-- It is put in without a start that the operand stands for. -/
  | dropStart (longest : Bool)
  /-- Nothing that the shell knows. -/
  | wrong
  deriving DecidableEq, Inhabited

/-- A part of a word, where `κ` is the type of commands. -/
inductive Part (κ : Type) where
  /-- A character. -/
  | char (c : Char)
  /-- A character that stands for itself. -/
  | escaped (c : Char)
  /-- A quote that was opened or closed. -/
  | mark
  /-- A parameter. -/
  | param (name : Chars) (op : ParamOp) (operand : List (Part κ))
  /-- The output of a command. -/
  | output (command : κ)
  /-- The value of an arithmetic expression. -/
  | sum (expression : List (Part κ))

instance {κ : Type} : Inhabited (Part κ) := ⟨.mark⟩

/-- Where a stream leads to. -/
inductive Target (κ : Type) where
  /-- To a file, which is opened in some way. -/
  | file (access : Access) (word : List (Part κ))
  /-- To the place that another stream leads to, or nowhere. -/
  | same (stream : Option Nat)
  /-- To the place that the stream leads to whose number a word is. -/
  | sameAs (word : List (Part κ))
  /-- From a text, which has a number. -/
  | text (id : Nat)

/-- A redirection of a stream. -/
structure Redirect (κ : Type) where
  /-- The stream. -/
  stream : Nat
  /-- Where it leads to. -/
  target : Target κ

/-- A command. Those that may print complaints of their own carry their lines. -/
inductive Cmd where
  /-- No command. -/
  | nothing
  /-- Assignments, and a program or function with its arguments. -/
  | simple (line : Nat) (assigns words : List (List (Part Cmd))) (redirects : List (Redirect Cmd))
  /-- Commands of which each one reads what the one in front of it writes. -/
  | pipe (cmds : List Cmd) (background : Bool)
  /-- A command that nobody waits for. -/
  | background (line : Nat) (body : Cmd) (redirects : List (Redirect Cmd))
  /-- A command in a shell of its own. -/
  | sub (line : Nat) (body : Cmd) (redirects : List (Redirect Cmd))
  /-- A command with redirections. -/
  | redirected (line : Nat) (body : Cmd) (redirects : List (Redirect Cmd))
  /-- A command whose success is failure. -/
  | not (body : Cmd)
  /-- A command behind another one, which runs if that succeeds. -/
  | andThen (first second : Cmd)
  /-- A command behind another one, which runs if that fails. -/
  | orElse (first second : Cmd)
  /-- A command behind another one. -/
  | seq (first second : Cmd)
  /-- A choice by a test. -/
  | cond (test yes no : Cmd)
  /-- A command that is repeated while a test succeeds, or until it does. -/
  | loop (isUntil : Bool) (test body : Cmd)
  /-- A command that is repeated for words. -/
  | each (line : Nat) (name : Chars) (words : List (List (Part Cmd))) (body : Cmd)
  /-- A choice by the patterns of a word. -/
  | choose (line : Nat) (word : List (Part Cmd)) (cases : List (List (List (Part Cmd)) × Cmd))
  /-- The definition of a function. -/
  | define (name : Chars) (body : Cmd)

instance : Inhabited Cmd := ⟨.nothing⟩

/-- A word. -/
abbrev Word := List (Part Cmd)

/-! ## Names -/

/-- Whether a character may begin the name of a variable. -/
def isNameStart (c : Char) : Bool := c.isAlpha || c == '_'

/-- Whether a character may stand in the name of a variable. -/
def isNameChar (c : Char) : Bool := c.isAlphanum || c == '_'

/-- Whether a text is the name of a variable. -/
def isName : Chars → Bool
  | [] => false
  | c :: rest => isNameStart c && rest.all isNameChar

namespace Word

/-- The characters of a word up to the first one that is not plain. -/
def plainStart : Word → Chars
  | .char c :: rest => c :: plainStart rest
  | _ => []

/-- The text of a word if all of its characters are plain. -/
def plain? : Word → Option Chars
  | [] => some []
  | .char c :: rest => (plain? rest).map (c :: ·)
  | _ => none

/-- The characters of a word, without the marks of quotes. -/
def text (w : Word) : Chars :=
  w.filterMap fun
    | .char c | .escaped c => some c
    | _ => none

/-- Whether a word assigns a value to a variable. -/
def isAssignment (w : Word) : Bool :=
  let front := plainStart w
  let name := front.takeWhile isNameChar
  isName name && (front.drop name.length).head? == some '='

end Word

end RoundTrip.Shell
