import RoundTrip.Machine.Numeral
import RoundTrip.Machine.Shell.Script

/-!
# Arithmetic of the shell

An arithmetic expression is evaluated as it is read, by the precedence of its operators, in
integers of 64 bits, which wrap around. Variables that are not set count as 0. Operands that do not
decide are read but not evaluated.
-/

namespace RoundTrip.Shell

open Machine

/-- What is wrong with an arithmetic expression. -/
inductive SumFault where
  /-- An operand is missing. -/
  | primary
  /-- Something follows the expression. -/
  | trailing
  /-- A parenthesis is not closed. -/
  | unclosed
  /-- A choice has no second operand. -/
  | noColon
  /-- A divisor is 0. -/
  | zeroDivisor
  /-- A quotient is too great for an integer. -/
  | overflow
  /-- The value of a variable is no number. -/
  | illegal (value : Chars)
  /-- A variable must not be changed. -/
  | fixed (name : Chars)
  deriving DecidableEq

/-- What is said about a fault of an arithmetic expression. -/
def SumFault.text (expression : Chars) : SumFault → Chars
  | .illegal value => "Illegal number: ".toList ++ value
  | .fixed name => name ++ ": is read only".toList
  | f =>
    let phrase := match f with
      | .primary => "expecting primary"
      | .trailing => "expecting EOF"
      | .unclosed => "expecting ')'"
      | .noColon => "expecting ':'"
      | _ => "division by zero"
    "arithmetic expression: ".toList ++ phrase.toList ++ ": \"".toList ++ expression ++ ['"']

namespace Sum

/-- A token of an arithmetic expression. -/
inductive Tok where
  | num (value : Int)
  | var (name : Chars)
  | op (text : String)
  /-- A character that belongs to no token; what follows it is not read. -/
  | bad
  deriving DecidableEq

/-- The operators, with those first that another one begins. -/
def operators : List String :=
  ["<<=", ">>=", "<<", ">>", "<=", ">=", "==", "!=", "&&", "||", "+=", "-=", "*=", "/=", "%=",
    "&=", "|=", "^=", "+", "-", "*", "/", "%", "<", ">", "!", "~", "&", "|", "^", "=", "?", ":",
    "(", ")"]

/-- The tokens of an expression, of at most `fuel` characters. -/
def tokens : Nat → Chars → List Tok
  | 0, _ => []
  | _, [] => []
  | fuel + 1, c :: rest =>
    if c = ' ' ∨ c = '\t' ∨ c = '\n' then tokens fuel rest
    else if c.isDigit then
      let n := LeadingInt.ofText true (c :: rest)
      .num n.toSigned.1 :: tokens fuel n.rest
    else if isNameStart c then
      let name := (c :: rest).takeWhile isNameChar
      .var name :: tokens fuel ((c :: rest).drop name.length)
    else
      match operators.find? fun op => op.toList.isPrefixOf (c :: rest) with
      | some op => .op op :: tokens fuel ((c :: rest).drop op.length)
      | none => [.bad]

/-- How loosely a binary operator binds, if it is one. -/
def looseness? : String → Option Nat
  | "*" | "/" | "%" => some 0
  | "+" | "-" => some 1
  | "<<" | ">>" => some 2
  | "<" | "<=" | ">" | ">=" => some 3
  | "==" | "!=" => some 4
  | "&" => some 5
  | "^" => some 6
  | "|" => some 7
  | _ => none

/-- The binary operator that tokens begin with, and how loosely it binds. -/
def binary? : List Tok → Option (String × Nat)
  | .op op :: _ => (looseness? op).map (op, ·)
  | _ => none

/-- The binary operator that an assignment applies, if any. -/
def assignment? : String → Option (Option String)
  | "=" => some none
  | op =>
    if op ∈ ["+=", "-=", "*=", "/=", "%=", "&=", "|=", "^=", "<<=", ">>="] then
      some (some (String.ofList op.toList.dropLast))
    else none

/-- An integer wrapped around to 64 bits. -/
def wrap (n : Int) : Int := Int.bmod n UInt64.size

/-- Applies a binary operator. -/
def apply (op : String) (a b : Int) : Except SumFault Int :=
  let truth (p : Bool) : Except SumFault Int := .ok (if p then 1 else 0)
  let bits (f : BitVec 64 → BitVec 64 → BitVec 64) : Except SumFault Int :=
    .ok (f (BitVec.ofInt 64 a) (BitVec.ofInt 64 b)).toInt
  let divided (f : Int → Int → Int) : Except SumFault Int :=
    if b = 0 then .error .zeroDivisor
    else if b = -1 ∧ a = -(LeadingInt.greatest + 1 : Int) then .error .overflow
    else .ok (f a b)
  match op with
  | "+" => .ok (wrap (a + b))
  | "-" => .ok (wrap (a - b))
  | "*" => .ok (wrap (a * b))
  | "/" => divided Int.tdiv
  | "%" => divided Int.tmod
  | "<<" => .ok (wrap (a * (Nat.pow 2 (b.emod 64).toNat : Nat)))
  | ">>" => .ok (Int.fdiv a (Nat.pow 2 (b.emod 64).toNat : Nat))
  | "<" => truth (a < b)
  | "<=" => truth (a ≤ b)
  | ">" => truth (b < a)
  | ">=" => truth (b ≤ a)
  | "==" => truth (a == b)
  | "!=" => truth (a != b)
  | "&" => bits (· &&& ·)
  | "^" => bits (· ^^^ ·)
  | _ => bits (· ||| ·)

/-- What an expression may use: the variables of the shell. -/
structure Scope where
  /-- The value of a variable. -/
  value? : Chars → Option Chars
  /-- Whether a variable must not be changed. -/
  isFixed : Chars → Bool

/-- An evaluation, which knows the values that it has assigned, the last one first. -/
abbrev Eval := StateT (List (Chars × Int)) (Except SumFault)

/-- The value of a variable. -/
def valueOf (scope : Scope) (name : Chars) : Eval Int := do
  match (← get).lookup name with
  | some n => return n
  | none =>
    let text := (scope.value? name).getD []
    let n := LeadingInt.ofText true text
    if n.toSigned.2 || !(if n.found then n.rest else text).all isSpace then
      throw (.illegal text)
    else return n.toSigned.1

mutual

/-- An assignment, or a choice. -/
def assignment (scope : Scope) : Nat → Bool → List Tok → Eval (Int × List Tok)
  | 0, _, _ => throw .primary
  | fuel + 1, idle, ts => do
    match ts with
    | .var name :: .op op :: rest =>
      match assignment? op with
      | none => choice scope fuel idle ts
      | some own =>
        let (n, rest) ← assignment scope fuel idle rest
        if idle then return (n, rest)
        else
          let value ← match own with
            | none => pure n
            | some op => liftM (apply op (← valueOf scope name) n)
          if scope.isFixed name then throw (.fixed name)
          modify ((name, value) :: ·)
          return (value, rest)
    | ts => choice scope fuel idle ts

/-- A choice, or a disjunction. -/
def choice (scope : Scope) : Nat → Bool → List Tok → Eval (Int × List Tok)
  | 0, _, _ => throw .primary
  | fuel + 1, idle, ts => do
    let (a, rest) ← disjunction scope fuel idle ts
    match rest with
    | .op "?" :: rest =>
      let (b, rest) ← assignment scope fuel (idle || a == 0) rest
      match rest with
      | .op ":" :: rest =>
        let (c, rest) ← choice scope fuel (idle || a != 0) rest
        return (if a ≠ 0 then b else c, rest)
      | _ => throw .noColon
    | rest => return (a, rest)

/-- A disjunction, or a conjunction. -/
def disjunction (scope : Scope) : Nat → Bool → List Tok → Eval (Int × List Tok)
  | 0, _, _ => throw .primary
  | fuel + 1, idle, ts => do
    let (a, rest) ← conjunction scope fuel idle ts
    match rest with
    | .op "||" :: rest =>
      let (b, rest) ← disjunction scope fuel (idle || a != 0) rest
      return (if a ≠ 0 ∨ b ≠ 0 then 1 else 0, rest)
    | rest => return (a, rest)

/-- A conjunction, or an operation. -/
def conjunction (scope : Scope) : Nat → Bool → List Tok → Eval (Int × List Tok)
  | 0, _, _ => throw .primary
  | fuel + 1, idle, ts => do
    let (a, rest) ← operand scope fuel idle ts
    let (a, rest) ← match binary? rest with
      | some (op, _) => operation scope fuel idle a op 8 rest.tail
      | none => pure (a, rest)
    match rest with
    | .op "&&" :: rest =>
      let (b, rest) ← conjunction scope fuel (idle || a == 0) rest
      return (if a ≠ 0 ∧ b ≠ 0 then 1 else 0, rest)
    | rest => return (a, rest)

/-- The operations behind a first operand and an operator that bind more tightly than a bound. -/
def operation (scope : Scope) :
    Nat → Bool → Int → String → Nat → List Tok → Eval (Int × List Tok)
  | 0, _, _, _, _, _ => throw .primary
  | fuel + 1, idle, a, op, bound, ts => do
    let own := (looseness? op).getD 0
    let (b, rest) ← operand scope fuel idle ts
    let (b, rest) ← match binary? rest with
      | some (op2, n) =>
        if n < own then operation scope fuel idle b op2 own rest.tail else pure (b, rest)
      | none => pure (b, rest)
    let a ← if idle then pure b else liftM (apply op a b)
    match binary? rest with
    | some (op2, n) =>
      if bound ≤ n then return (a, rest) else operation scope fuel idle a op2 bound rest.tail
    | none => return (a, rest)

/-- A number, a variable, an expression in parentheses, or one of these behind signs. -/
def operand (scope : Scope) : Nat → Bool → List Tok → Eval (Int × List Tok)
  | 0, _, _ => throw .primary
  | fuel + 1, idle, ts => do
    let signed (f : Int → Int) (rest : List Tok) : Eval (Int × List Tok) := do
      let (n, rest) ← operand scope fuel idle rest
      return (f n, rest)
    match ts with
    | .num n :: rest => return (n, rest)
    | .var name :: rest => return (← if idle then pure 0 else valueOf scope name, rest)
    | .op "(" :: rest =>
      let (n, rest) ← assignment scope fuel idle rest
      match rest with
      | .op ")" :: rest => return (n, rest)
      | _ => throw .unclosed
    | .op "+" :: rest => signed id rest
    | .op "-" :: rest => signed (fun n => wrap (-n)) rest
    | .op "!" :: rest => signed (fun n => if n = 0 then 1 else 0) rest
    | .op "~" :: rest => signed (fun n => -n - 1) rest
    | _ => throw .primary

end

end Sum

/-- The value of an arithmetic expression, and the values that it assigns, in order. -/
def evalSum (scope : Sum.Scope) (expression : Chars) :
    Except SumFault (Int × List (Chars × Int)) := do
  let ts := Sum.tokens (expression.length + 1) expression
  let ((n, rest), assigned) ← (Sum.assignment scope (16 * ts.length + 16) false ts).run []
  if rest.isEmpty then return (n, assigned.reverse) else throw .trailing

end RoundTrip.Shell
