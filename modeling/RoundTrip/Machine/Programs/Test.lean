import RoundTrip.Machine.Programs.Basic
import RoundTrip.Machine.Condition

/-!
# Conditions as a program

The program `test` reads up to four words by their number, and more of them from the left: choices
are weaker than conjunctions, which are weaker than negations. It differs from the command of the
shell in what it says, and in that its numbers have no bounds.
-/

namespace RoundTrip.Machine.Test

/-- A value and the words that are left, or what is wrong. -/
abbrev Judged := Except Chars (Bool × List Chars)

/-- What is asked: of which files, and what the last word is. -/
structure Question where
  /-- The files. -/
  files : FileTree
  /-- The last word. -/
  last : Chars

/-- The relations. -/
def relations : List String :=
  "==" :: ConditionWord.relations.filter fun r => r != "<" && r != ">"

/-- Whether a word is the name of a relation. -/
def isRelation (word : Chars) : Bool := relations.any fun r => r.toList == word

/-- The number that a word is. -/
def number? (word : Chars) : Option Int :=
  let isBlank (c : Char) : Bool := c == ' ' || c == '\t'
  let own := word.dropWhile isBlank
  let (negative, own) := match own with
    | '-' :: rest => (true, rest)
    | '+' :: rest => (false, rest)
    | _ => (false, own)
  let digits := own.takeWhile Char.isDigit
  if digits.isEmpty || !(own.drop digits.length).all isBlank then none
  else
    let value := (digits.foldl (fun n d => 10 * n + (d.toNat - '0'.toNat)) 0 : Nat)
    some (if negative then -value else value)

namespace Question

/-- The last word should be followed by another one. -/
def lacking (q : Question) : Judged := .error ("missing argument after ".toList ++ cited q.last)

/-- A word that is not empty. -/
def single (q : Question) : List Chars → Judged
  | [] => q.lacking
  | word :: rest => .ok (!word.isEmpty, rest)

/-- A property of a word. -/
def property (q : Question) : List Chars → Judged
  | op :: word :: rest =>
    let name := String.ofList op
    if name == "-t" then
      match number? word with
      | some _ => .ok (false, rest)
      | none => .error ("invalid integer ".toList ++ cited word)
    else if ConditionWord.properties.contains name then
      match hasProperty q.files name word with
      | .ok value => .ok (value, rest)
      | .error fault => .error fault.text
    else .error (cited op ++ ": unary operator expected".toList)
  | [op] =>
    if ConditionWord.properties.contains (String.ofList op) then q.lacking
    else .error (cited op ++ ": unary operator expected".toList)
  | [] => q.lacking

/-- A relation of two words. -/
def relation (q : Question) : List Chars → Judged
  | a :: op :: b :: rest => do
    let name := String.ofList op
    let number (word : Chars) : Except Chars Int :=
      match number? word with
      | some n => .ok n
      | none => .error ("invalid integer ".toList ++ cited word)
    let numbers (f : Int → Int → Bool) : Judged := do
      let x ← number a
      let y ← number b
      .ok (f x y, rest)
    match name with
    | "==" => .ok (a == b, rest)
    | "-eq" => numbers (· == ·)
    | "-ne" => numbers (· != ·)
    | "-lt" => numbers (decide <| · < ·)
    | "-le" => numbers (decide <| · ≤ ·)
    | "-gt" => numbers (decide <| · > ·)
    | "-ge" => numbers (decide <| · ≥ ·)
    | _ =>
      match areRelated q.files name a b with
      | .ok value => .ok (value, rest)
      | .error fault => .error fault.text
  | _ => q.lacking

/-- Two words. -/
def two (q : Question) : List Chars → Judged
  | ['!'] :: rest => do
    let (value, rest) ← q.single rest
    .ok (!value, rest)
  | ['-', c] :: rest => q.property (['-', c] :: rest)
  | _ => q.lacking

/-- How many words stand in parentheses, in front of some words; all of them if there are many. -/
def enclosed (words : List Chars) : Nat :=
  let count := 1 + (words.tail.takeWhile (· != [')'])).length
  if 4 < count then words.length else count

mutual

/-- A choice. -/
def choice (q : Question) : Nat → List Chars → Judged
  | 0, _ => q.lacking
  | fuel + 1, words => do
    let (a, rest) ← conjunction q fuel words
    match rest with
    | ['-', 'o'] :: rest =>
      let (b, rest) ← choice q fuel rest
      .ok (a || b, rest)
    | _ => .ok (a, rest)

/-- A conjunction. -/
def conjunction (q : Question) : Nat → List Chars → Judged
  | 0, _ => q.lacking
  | fuel + 1, words => do
    let (a, rest) ← term q fuel words
    match rest with
    | ['-', 'a'] :: rest =>
      let (b, rest) ← conjunction q fuel rest
      .ok (a && b, rest)
    | _ => .ok (a, rest)

/-- A single condition, which may be negated. -/
def term (q : Question) : Nat → List Chars → Judged
  | 0, _ | _, [] => q.lacking
  | fuel + 1, ['!'] :: rest => do
    let (value, rest) ← term q fuel rest
    .ok (!value, rest)
  | fuel + 1, ['('] :: inner => do
    if inner.isEmpty then q.lacking
    else
      let (value, rest) ← counted q fuel (enclosed inner) inner
      match rest with
      | [] => .error "')' expected".toList
      | [')'] :: rest => .ok (value, rest)
      | word :: _ => .error (cited [')'] ++ " expected, found ".toList ++ cited word)
  | _, a :: op :: b :: rest =>
    if isRelation op then q.relation (a :: op :: b :: rest) else plain (a :: op :: b :: rest)
  | _, words => plain words
where
  /-- A property of a word, or a word that is not empty. -/
  plain : List Chars → Judged
    | ['-', c] :: rest => q.property (['-', c] :: rest)
    | words => q.single words

/-- The next words, by their number. -/
def counted (q : Question) : Nat → Nat → List Chars → Judged
  | 0, _, _ => q.lacking
  | _, 1, words => q.single words
  | _, 2, words => q.two words
  | fuel + 1, 3, words => three q fuel words
  | fuel + 1, 4, ['!'] :: rest => do
    let (value, rest) ← three q fuel rest
    .ok (!value, rest)
  | _ + 1, 4, ['('] :: a :: b :: [')'] :: rest => do
    let (value, inner) ← q.two [a, b]
    .ok (value, if inner.isEmpty then rest else inner ++ rest)
  | fuel + 1, _, words => choice q fuel words

/-- Three words. -/
def three (q : Question) : Nat → List Chars → Judged
  | fuel + 1, a :: op :: b :: rest => do
    if isRelation op then q.relation (a :: op :: b :: rest)
    else if a = ['!'] then
      let (value, rest) ← q.two (op :: b :: rest)
      .ok (!value, rest)
    else if a = ['('] ∧ b = [')'] then .ok (!op.isEmpty, rest)
    else if op = ['-', 'a'] ∨ op = ['-', 'o'] then choice q fuel (a :: op :: b :: rest)
    else .error (cited op ++ ": binary operator expected".toList)
  | _, _ => q.lacking

end

/-- Whether all words hold. -/
def holds (q : Question) : List Chars → Except Chars Bool
  | [] => .ok false
  | words => do
    let (value, rest) ← q.counted (8 * words.length + 8) words.length words
    match rest with
    | [] => .ok value
    | word :: _ => .error ("extra argument ".toList ++ cited word)

end Question

end Test

/-- `test`: checks a condition. -/
def testProgram (c : Call) (words : List Chars) : Proc Nat := do
  match ← Proc.see fun files =>
      (⟨files, words.getLastD []⟩ : Test.Question).holds words with
  | .ok true => return 0
  | .ok false => return 1
  | .error message =>
    c.complain message
    return 2

/-- `[`: checks a condition in brackets. -/
def bracketProgram (c : Call) : Proc Nat := do
  if c.args.getLast? = some [']'] then testProgram c c.args.dropLast
  else
    c.complain ("missing ".toList ++ cited [']'])
    return 2

end RoundTrip.Machine
