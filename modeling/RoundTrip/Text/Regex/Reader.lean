import RoundTrip.Text.Regex

/-!
# Reading regular expressions

There are two ways to write an expression. In the basic way parentheses, braces, bars, plus signs
and question marks stand for themselves unless a backslash stands before them; in the extended way
it is the other way round. Both are cut into the same tokens (`RegexToken`), which are read by the
precedence of repetition, sequence and choice.
-/

namespace RoundTrip

/-- What is wrong with the text of an expression. -/
inductive RegexFault where
  | noBracket | openBracket | className | classSyntax | rangeEnd | openParenthesis | closeParenthesis
  | openBrace | boundContent | boundSize | reference | backslash
  deriving DecidableEq, Inhabited

/-- What a fault is called. -/
def RegexFault.phrase : RegexFault → String
  | .noBracket => "Invalid regular expression"
  | .openBracket => "Unmatched [, [^, [:, [., or [="
  | .className => "Invalid character class name"
  | .classSyntax => "character class syntax is [[:space:]], not [:space:]"
  | .rangeEnd => "Invalid range end"
  | .openParenthesis => "Unmatched ( or \\("
  | .closeParenthesis => "Unmatched ) or \\)"
  | .openBrace => "Unmatched \\\x7b"
  | .boundContent => "Invalid content of \\\x7b\\\x7d"
  | .boundSize => "Regular expression too big"
  | .reference => "Invalid back reference"
  | .backslash => "Trailing backslash"

/-- A token of an expression. -/
inductive RegexToken where
  /-- An expression. -/
  | atom (r : Regex)
  /-- A repetition, the text that it is written by, and whether it has nothing to repeat. -/
  | times (least : Nat) (most : Option Nat) (sign : String) (idle : Bool)
  | opening | closing | bar
  /-- What cannot be read. -/
  | fault (f : RegexFault)
  deriving Inhabited

namespace RegexToken

/-- The text of a bracket expression up to a closing pair such as `:]`. -/
def uptoPair (mark : Char) : List Char → List Char → Option (List Char × List Char)
  | acc, c :: ']' :: rest =>
    if c = mark then some (acc.reverse, rest) else uptoPair mark (c :: acc) (']' :: rest)
  | acc, c :: rest => uptoPair mark (c :: acc) rest
  | _, [] => none

/-- An element of a bracket expression. -/
inductive Element where
  /-- A character, which may begin or end a range. -/
  | char (c : Char)
  /-- A class. -/
  | ofClass (k : CharClass)

/-- The character that is named up to a closing pair. -/
def named (mark : Char) (text : List Char) : Except RegexFault (Char × List Char) :=
  match uptoPair mark [] text with
  | some ([c], rest) => .ok (c, rest)
  | some _ => .error .className
  | none => .error .openBracket

/-- The element at the front of a text. -/
def element : List Char → Except RegexFault (Element × List Char)
  | '[' :: ':' :: rest =>
    match uptoPair ':' [] rest with
    | some (name, rest) =>
      match CharClass.named.lookup (String.ofList name) with
      | some k => .ok (.ofClass k, rest)
      | none => .error .className
    | none => .error .openBracket
  | '[' :: '.' :: rest => (named '.' rest).map fun (c, rest) => (.char c, rest)
  | '[' :: '=' :: rest => (named '=' rest).map fun (c, rest) => (.char c, rest)
  | c :: rest => .ok (.char c, rest)
  | [] => .error .openBracket

/-- The tests of a bracket expression up to its end, of at most `fuel` characters; `first` says
that a closing bracket stands for itself. -/
def bracketTests : Nat → Bool → List CharTest → List Char →
    Except RegexFault (List CharTest × List Char)
  | 0, _, _, _ => .error .openBracket
  | fuel + 1, first, acc, text =>
    match text with
    | [] => .error .openBracket
    | c :: rest =>
      if c = ']' ∧ !first then .ok (acc.reverse, rest)
      else
        match element text with
        | .error f => .error f
        | .ok (.ofClass k, rest) => bracketTests fuel false (.ofClass k :: acc) rest
        | .ok (.char low, '-' :: rest) =>
          if rest.head? = some ']' then
            bracketTests fuel false (.range low low :: acc) ('-' :: rest)
          else
            match element rest with
            | .error f => .error f
            | .ok (.ofClass _, _) => .error .rangeEnd
            | .ok (.char high, rest) =>
              if high < low then .error .rangeEnd
              else bracketTests fuel false (.range low high :: acc) rest
        | .ok (.char c, rest) => bracketTests fuel false (.range c c :: acc) rest

/-- The set that a bracket expression stands for, behind its opening bracket. -/
def bracket (text : List Char) : Except RegexFault (CharSet × List Char) :=
  let (negated, text') := match text with
    | '^' :: rest => (true, rest)
    | _ => (false, text)
  match bracketTests (text'.length + 1) true [] text' with
  | .error f => .error (if text'.isEmpty then .noBracket else f)
  | .ok (tests, rest) =>
    let inside := text.take (text.length - rest.length)
    if text.head? = some ':' ∧ inside.length > 2 ∧ inside.dropLast.getLast? = some ':' then
      .error .classSyntax
    else .ok (⟨negated, tests⟩, rest)

/-- What the text between braces asks for. -/
inductive Bounds where
  /-- A repetition. -/
  | times (least : Nat) (most : Option Nat)
  /-- No repetition at all. -/
  | text
  /-- One that cannot be. -/
  | fault (f : RegexFault)

/-- The greatest number of repetitions. -/
def boundLimit : Nat := 32767

/-- Reads the text between braces. -/
def bounds (inside : List Char) : Bounds :=
  let low := inside.takeWhile Char.isDigit
  let rest := inside.drop low.length
  let number (digits : List Char) : Nat := Nat.ofDigitChars 10 digits 0
  let sized (least : Nat) (most : Option Nat) : Bounds :=
    if most.any (· < least) then .fault .boundContent
    else if boundLimit < most.getD least then .fault .boundSize
    else .times least most
  match rest with
  | [] => if low.isEmpty then .fault .boundContent else sized (number low) (some (number low))
  | ',' :: high =>
    if high.isEmpty then sized (number low) none
    else if high.all Char.isDigit then sized (number low) (some (number high))
    else .text
  | _ => .text

/-- The expression of a letter behind a backslash. -/
def escaped? : Char → Option Regex
  | 'w' => some (.one ⟨false, [.ofClass .word]⟩)
  | 'W' => some (.one ⟨true, [.ofClass .word]⟩)
  | 's' => some (.one ⟨false, [.ofClass .space]⟩)
  | 'S' => some (.one ⟨true, [.ofClass .space]⟩)
  | 'b' => some (.edge .any)
  | 'B' => some (.edge .none)
  | '<' => some (.edge .left)
  | '>' => some (.edge .right)
  | '\x60' => some .start
  | '\'' => some .finish
  | c => if '1' ≤ c ∧ c ≤ '9' then some (.again (c.toNat - '0'.toNat)) else none

/-- The token of a sign that has a meaning besides itself. -/
def sign? : Char → Option RegexToken
  | '(' => some .opening
  | ')' => some .closing
  | '|' => some .bar
  | '+' => some (.times 1 none "+" false)
  | '?' => some (.times 0 (some 1) "?" false)
  | _ => none

/-- Whether what follows a dollar sign lets it stand for the end of the text. -/
def endsPart (extended : Bool) : List Char → Bool
  | [] => true
  | ')' :: _ | '|' :: _ => extended
  | '\\' :: ')' :: _ | '\\' :: '|' :: _ => !extended
  | _ => false

/-- The token of a character that stands for itself. -/
def plain (c : Char) : RegexToken := .atom (.one (.single c))

/-- The text between two braces, and what follows them. -/
def braced? (extended : Bool) (text : List Char) : Option (List Char × List Char) :=
  let inside := text.takeWhile fun c => c.isDigit || c == ','
  match text.drop inside.length with
  | '\x7d' :: rest => if extended then some (inside, rest) else none
  | '\\' :: '\x7d' :: rest => if extended then none else some (inside, rest)
  | _ => none

/-- Whether a token begins a part of an expression. -/
def begins : RegexToken → Bool
  | .opening | .bar => true
  | _ => false

/-- Whether an expression stands for places only. -/
def isPlace : Regex → Bool
  | .start | .finish | .edge _ => true
  | _ => false

/-- The tokens of an expression, of at most `fuel` characters; `first` says that nothing stands
before in its part, and `fresh` that at most places do. -/
def ofText (extended : Bool) : Nat → Bool → Bool → List Char → List RegexToken
  | 0, _, _, _ => []
  | _ + 1, _, _, [] => []
  | fuel + 1, first, fresh, c :: rest =>
    let go (token : RegexToken) (fresh : Bool) (rest : List Char) : List RegexToken :=
      token :: ofText extended fuel token.begins fresh rest
    let signed (c : Char) (rest : List Char) : List RegexToken :=
      if c = '\x7b' then
        if fresh && !extended then go (plain c) false rest
        else
          match braced? extended rest with
          | some (inside, after) =>
            match bounds inside with
            | .times least most => go (.times least most "\x7b...\x7d" fresh) false after
            | .fault f => [.fault f]
            | .text => go (plain c) false rest
          | none =>
            if extended then go (plain c) false rest
            else if rest.any (· == '\x7d') then [.fault .boundContent]
            else [.fault .openBrace]
      else
        match sign? c with
        | some .opening => go .opening true rest
        | some .bar => go .bar true rest
        | some .closing => go .closing false rest
        | some (.times least most sign _) =>
          if fresh && !extended then go (plain c) false rest
          else go (.times least most sign fresh) fresh rest
        | _ => go (plain c) false rest
    match c with
    | '\\' =>
      match rest with
      | [] => [.fault .backslash]
      | d :: rest =>
        match escaped? d with
        | some r => go (.atom r) (fresh && isPlace r) rest
        | none => if extended then go (plain d) false rest else signed d rest
    | '[' =>
      match bracket rest with
      | .ok (set, rest) => go (.atom (.one set)) false rest
      | .error f => [.fault f]
    | '.' => go (.atom (.one .all)) false rest
    | '*' =>
      if fresh && !extended then go (plain c) false rest
      else go (.times 0 none "*" fresh) fresh rest
    | '^' =>
      if first || extended then go (.atom .start) fresh rest else go (plain c) false rest
    | '$' =>
      if extended || endsPart extended rest then go (.atom .finish) fresh rest
      else go (plain c) false rest
    | _ => if extended then signed c rest else go (plain c) false rest

end RegexToken

namespace Regex

/-- An expression that was read, its numbered stretches, and the signs of repetitions that repeat
nothing. -/
structure Reading where
  /-- The expression. -/
  regex : Regex
  /-- How many stretches have numbers. -/
  groups : Nat := 0
  /-- The numbers of the stretches whose ends were read. -/
  closed : List Nat := []
  /-- The signs of repetitions that repeat nothing. -/
  idle : List String := []

/-- The repetitions behind an expression. -/
def repetitions : Regex → List RegexToken → Regex × List RegexToken
  | r, .times least most _ _ :: rest => repetitions (.many r least most) rest
  | r, rest => (r, rest)

mutual

/-- The choices up to a closing parenthesis or the end; the state is what was read so far. -/
def choices : Nat → Reading → List RegexToken → Except RegexFault (Reading × List RegexToken)
  | 0, _, _ => .error .boundSize
  | fuel + 1, state, ts => do
    let (first, rest) ← items fuel { state with regex := .empty } ts
    match rest with
    | .bar :: rest =>
      let (others, rest) ← choices fuel { first with closed := state.closed } rest
      let closed := first.closed ++ others.closed
      .ok ({ others with regex := .either first.regex others.regex, closed }, rest)
    | rest => .ok (first, rest)

/-- The items of a sequence. -/
def items : Nat → Reading → List RegexToken → Except RegexFault (Reading × List RegexToken)
  | 0, _, _ => .error .boundSize
  | fuel + 1, state, ts =>
    let more (r : Regex) (state : Reading) (rest : List RegexToken) :
        Except RegexFault (Reading × List RegexToken) := do
      let (r, rest) := repetitions r rest
      let (others, rest) ← items fuel { state with regex := .empty } rest
      .ok ({ others with regex := .seq r others.regex }, rest)
    match ts with
    | .atom (.again n) :: rest =>
      if state.closed.contains n then more (.again n) state rest else .error .reference
    | .atom r :: rest => more r state rest
    | .times least most _ _ :: rest => more (.many .empty least most) state rest
    | .opening :: rest => do
      let number := state.groups + 1
      let (inner, rest) ← choices fuel { state with groups := number } rest
      match rest with
      | .closing :: rest =>
        more (.group number inner.regex) { inner with closed := number :: inner.closed } rest
      | _ => .error .openParenthesis
    | .fault f :: _ => .error f
    | rest => .ok (state, rest)

end

/-- Reads an expression. In the extended way a parenthesis that closes nothing stands for
itself. -/
def ofPattern (extended : Bool) (text : List Char) : Except RegexFault Reading := do
  let ts := RegexToken.ofText extended (text.length + 1) true true text
  let idle := ts.filterMap fun
    | .times _ _ sign true => some sign
    | _ => none
  let fuel := 4 * ts.length + 8
  let ts := if extended then closeAlone 0 ts else ts
  let (reading, rest) ← choices fuel { regex := .empty } ts
  if rest.isEmpty then .ok { reading with idle } else .error .closeParenthesis
where
  /-- The tokens with the closing parentheses that close nothing as characters. -/
  closeAlone : Nat → List RegexToken → List RegexToken
    | _, [] => []
    | depth, .opening :: rest => .opening :: closeAlone (depth + 1) rest
    | 0, .closing :: rest => RegexToken.plain ')' :: closeAlone 0 rest
    | depth + 1, .closing :: rest => .closing :: closeAlone depth rest
    | depth, t :: rest => t :: closeAlone depth rest

end Regex

end RoundTrip
