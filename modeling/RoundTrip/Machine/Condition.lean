import RoundTrip.Machine.Print

/-!
# Conditions

The rules of `test`. A condition is read from the left: a word is an operator if it is called like
one, unless what follows it says that it is an operand. Choices are weaker than conjunctions, which
are weaker than negations; all operands are looked at, also those that no longer matter.
-/

namespace RoundTrip.Machine

/-- What is wrong with a condition. -/
inductive ConditionFault where
  /-- A word stands where none may stand. -/
  | unexpected (word : Chars)
  /-- An operator has no operand behind it. -/
  | missing (operator : Chars)
  /-- A parenthesis is not closed. -/
  | unclosed
  /-- A word should be a number. -/
  | illegal (word : Chars)

/-- What is said of a fault; a word that is empty is not named. -/
def ConditionFault.text : ConditionFault → Chars
  | .unexpected [] => "unexpected operator".toList
  | .unexpected word => word ++ ": unexpected operator".toList
  | .missing operator => operator ++ ": argument expected".toList
  | .unclosed => "closing paren expected".toList
  | .illegal word => "Illegal number: ".toList ++ word

/-- What a word of a condition is. -/
inductive ConditionWord where
  | nothing | operand | not | and | or | opening | closing
  /-- A property of the next word. -/
  | unary (op : String)
  /-- A relation of the words around it. -/
  | binary (op : String)
  deriving DecidableEq, Inhabited

namespace ConditionWord

/-- The properties. -/
def properties : List String :=
  ["-r", "-w", "-x", "-e", "-f", "-d", "-c", "-b", "-p", "-u", "-g", "-k", "-s", "-t", "-z", "-n",
    "-h", "-O", "-G", "-L", "-S"]

/-- The relations. -/
def relations : List String :=
  ["=", "!=", "<", ">", "-eq", "-ne", "-gt", "-ge", "-lt", "-le", "-nt", "-ot", "-ef"]

/-- What a word is called. -/
def ofWord (word : Chars) : ConditionWord :=
  let text := String.ofList word
  match text with
  | "!" => .not
  | "-a" => .and
  | "-o" => .or
  | "(" => .opening
  | ")" => .closing
  | _ =>
    if properties.contains text then .unary text
    else if relations.contains text then .binary text
    else .operand

/-- What the first of some words is. -/
def ofWords : List Chars → ConditionWord
  | [] => .nothing
  | word :: rest =>
    match ofWord word with
    | .unary op =>
      match rest with
      | [] => .operand
      | [_] => .unary op
      | next :: _ =>
        match ofWord next with
        | .binary _ => .operand
        | _ => .unary op
    | .opening => if rest.isEmpty then .operand else .opening
    | kind => kind

end ConditionWord

/-- Whether a word has a property. -/
def hasProperty (files : FileTree) (op : String) (word : Chars) : Except ConditionFault Bool :=
  let p := pathOf word
  match op with
  | "-n" => .ok !word.isEmpty
  | "-z" => .ok word.isEmpty
  | "-t" => if (intOf? word).isSome then .ok false else .error (.illegal word)
  | "-e" | "-r" | "-w" | "-O" | "-G" => .ok (files.node? p).isSome
  | "-f" => .ok (files.isFile p)
  | "-d" => .ok (files.isDir p)
  | "-x" => .ok ((files.node? p).any fun n => n.isDir || n.isExecutable)
  | "-c" => .ok (match files.node? p with
    | some .null => true
    | _ => false)
  | "-s" => .ok (match files.node? p with
    | some (.file content _) => !content.isEmpty
    | some (.dir _) => true
    | _ => false)
  | "-u" | "-g" | "-k" =>
    let bit := if op = "-u" then 0o4000 else if op = "-g" then 0o2000 else 0o1000
    .ok (match files.node? p with
      | some (.file _ mode) => mode &&& bit != 0
      | _ => false)
  | "-L" | "-h" => .ok (match files.landing false p with
    | .ok (.found _ (.link _)) => true
    | _ => false)
  | _ => .ok false

/-- Whether two words are in a relation. -/
def areRelated (files : FileTree) (op : String) (a b : Chars) : Except ConditionFault Bool :=
  let numbers (f : Int → Int → Bool) : Except ConditionFault Bool :=
    match intOf? a, intOf? b with
    | some x, some y => .ok (f x y)
    | none, _ => .error (.illegal a)
    | _, none => .error (.illegal b)
  let place (word : Chars) : Option Place :=
    match files.landing true (pathOf word) with
    | .ok (.found place _) => some place
    | _ => none
  match op with
  | "=" => .ok (a == b)
  | "!=" => .ok (a != b)
  | "<" => .ok (a < b)
  | ">" => .ok (b < a)
  | "-eq" => numbers (· == ·)
  | "-ne" => numbers (· != ·)
  | "-lt" => numbers (decide <| · < ·)
  | "-le" => numbers (decide <| · ≤ ·)
  | "-gt" => numbers (decide <| · > ·)
  | "-ge" => numbers (decide <| · ≥ ·)
  | "-ef" => .ok (match place a, place b with
    | some x, some y => x == y
    | _, _ => false)
  | _ => .ok false

namespace Condition

/-- A value, and the words from the one that was read last on. -/
abbrev Read := Except ConditionFault (Bool × List Chars)

mutual

/-- A choice, of which the first word is of a kind. -/
def choice (files : FileTree) : Nat → ConditionWord → List Chars → Read
  | 0, _, words => .ok (false, words)
  | fuel + 1, kind, words => do
    let (a, words) ← conjunction files fuel kind words
    match ConditionWord.ofWords words.tail with
    | .or =>
      let rest := words.drop 2
      let (b, words) ← choice files fuel (.ofWords rest) rest
      .ok (a || b, words)
    | _ => .ok (a, words)

/-- A conjunction. -/
def conjunction (files : FileTree) : Nat → ConditionWord → List Chars → Read
  | 0, _, words => .ok (false, words)
  | fuel + 1, kind, words => do
    let (a, words) ← negation files fuel kind words
    match ConditionWord.ofWords words.tail with
    | .and =>
      let rest := words.drop 2
      let (b, words) ← conjunction files fuel (.ofWords rest) rest
      .ok (a && b, words)
    | _ => .ok (a, words)

/-- A condition that may be negated. -/
def negation (files : FileTree) : Nat → ConditionWord → List Chars → Read
  | 0, _, words => .ok (false, words)
  | fuel + 1, .not, words => do
    let kind := ConditionWord.ofWords words.tail
    let (a, words) ← negation files fuel kind (if kind = .nothing then words else words.tail)
    .ok (!a, words)
  | fuel + 1, kind, words => primary files fuel kind words

/-- A condition in parentheses, a property, a relation or a single word. -/
def primary (files : FileTree) : Nat → ConditionWord → List Chars → Read
  | 0, _, words => .ok (false, words)
  | fuel + 1, kind, words =>
    match kind with
    | .nothing => .ok (false, words)
    | .opening =>
      match ConditionWord.ofWords words.tail with
      | .closing => .ok (false, words.tail)
      | kind => do
        let (a, words) ← choice files fuel kind words.tail
        match ConditionWord.ofWords words.tail with
        | .closing => .ok (a, words.tail)
        | _ => .error .unclosed
    | .unary op =>
      match words.tail with
      | [] => .error (.missing op.toList)
      | word :: rest => do
        let a ← hasProperty files op word
        .ok (a, word :: rest)
    | _ =>
      match ConditionWord.ofWords words.tail, words with
      | .binary op, a :: _ :: b :: rest => do
        let value ← areRelated files op a b
        .ok (value, b :: rest)
      | .binary op, _ => .error (.missing op.toList)
      | _, word :: _ => .ok (!word.isEmpty, words)
      | _, [] => .ok (false, [])

end

/-- Evaluates the words of a condition, of which the first one is of a kind. -/
def whole (files : FileTree) (kind : ConditionWord) (words : List Chars) :
    Except ConditionFault Bool := do
  let (a, rest) ← choice files (4 * words.length + 8) kind words
  match rest with
  | word :: _ :: _ => .error (.unexpected word)
  | _ => .ok a

/-- Evaluates a condition; what it means may depend on how many words it has. -/
def holds (files : FileTree) : List Chars → Except ConditionFault Bool
  | [] => .ok false
  | first :: rest =>
    let words := first :: rest
    let plain : Except ConditionFault Bool := whole files (.ofWords words) words
    let short : Except ConditionFault Bool :=
      if first = ['('] ∧ words.getLast? = some [')'] then
        let inner := rest.dropLast
        whole files (.ofWords inner) inner
      else if first = ['!'] then (holds files rest).map not
      else plain
    match rest with
    | [op, _] =>
      match ConditionWord.ofWord op with
      | .binary _ => whole files .operand words
      | _ => short
    | [_, _, _] => short
    | _ => plain

end Condition

end RoundTrip.Machine
