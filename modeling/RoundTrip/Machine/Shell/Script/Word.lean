import RoundTrip.Machine.Shell.Script

/-!
# The words of a script

How words are read from the text of a script. A reader knows what is left of the text and on which
line that is; a backslash at the end of a line joins it to the next one. What a character means
depends on the quotes and braces that are open, which are kept in frames.
-/

namespace RoundTrip.Shell

open Machine

/-! ## What is read -/

/-- The kinds of what a script consists of. -/
inductive Token where
  | eof | newline | semi | background | and | or | pipe | opening | closing | endCase | redirect
  | word
  /-- A word that has a meaning of its own. -/
  | keyword (name : String)
  deriving DecidableEq, Inhabited

/-- The words that have a meaning of their own. -/
def keywords : List String :=
  ["!", "case", "do", "done", "elif", "else", "esac", "fi", "for", "if", "in", "then", "until",
    "while", "\x7b", "\x7d"]

namespace Token

/-- How a token is called in complaints. -/
def text : Token → String
  | .eof => "end of file"
  | .newline => "newline"
  | .semi => "\";\""
  | .background => "\"&\""
  | .and => "\"&&\""
  | .or => "\"||\""
  | .pipe => "\"|\""
  | .opening => "\"(\""
  | .closing => "\")\""
  | .endCase => "\";;\""
  | .redirect => "redirection"
  | .word => "word"
  | .keyword name => "\"" ++ name ++ "\""

/-- Whether a list of commands may end in front of a token. -/
def endsList : Token → Bool
  | .eof | .closing | .endCase => true
  | .keyword name =>
    name ∈ ["do", "done", "elif", "else", "esac", "fi", "then", "\x7d"]
  | _ => false

end Token

/-- What is wrong with a script. -/
inductive ScriptFault where
  /-- A token stands where another one, or some other one, should stand. -/
  | unexpected (token : Token) (expected : Option Token)
  | openQuote | openBrace | openSum | openBackquote | badVariable | badFunction
  /-- The script is nested too deeply. -/
  | tooDeep
  deriving Inhabited

/-- What is said of a fault. -/
def ScriptFault.text : ScriptFault → String
  | .unexpected token none => token.text ++ " unexpected"
  | .unexpected token (some expected) =>
    token.text ++ " unexpected (expecting " ++ expected.text ++ ")"
  | .openQuote => "Unterminated quoted string"
  | .openBrace => "Missing '\x7d'"
  | .openSum => "Missing '))'"
  | .openBackquote => "EOF in backquote substitution"
  | .badVariable => "Bad for loop variable"
  | .badFunction => "Bad function name"
  | .tooDeep => "Nesting too deep"

/-- A text that a redirection takes from the following lines. -/
structure Pending where
  /-- Its number. -/
  id : Nat
  /-- The line that ends it. -/
  mark : Chars := []
  /-- Whether tabs in front of lines are left out. -/
  strips : Bool
  /-- Whether all of its characters stand for themselves. -/
  literal : Bool := false
  deriving Inhabited

/-- What the next token is looked at for. -/
structure Checks where
  /-- Ends of lines are passed over. -/
  newlines : Bool := false
  /-- It may be a keyword. -/
  keywords : Bool := false
  /-- It may be an alias. -/
  aliases : Bool := false
  /-- It is the mark of a text, in which nothing is put in. -/
  mark : Bool := false
  deriving Inhabited

/-- The reader of a script. -/
structure Reader where
  /-- What is left to read. -/
  rest : Chars
  /-- The line that it begins on. -/
  line : Nat := 1
  /-- Whether it is read of a file. -/
  isFile : Bool := false
  /-- The texts that words stand for. -/
  aliases : List (Chars × Chars) := []
  /-- The words whose texts are being read, the last one first, each with those whose texts ended
  right in front of it. -/
  entered : List (List Chars) := []
  /-- The words whose texts have just ended. -/
  left : List Chars := []
  /-- The last token. -/
  token : Token := .newline
  /-- Whether the last token is to be read again. -/
  pushed : Bool := false
  /-- The last word. -/
  word : Word := []
  /-- Whether something in the last word was quoted. -/
  quoted : Bool := false
  /-- The last redirection: its stream and how it is written. -/
  redirect : Nat × String := (0, "<")
  /-- What the next token is looked at for. -/
  checks : Checks := {}
  /-- The texts that are to be read behind the line. -/
  pending : List Pending := []
  /-- The texts that were read. -/
  texts : Array Word := #[]
  deriving Inhabited

/-- A fault, and the line on which it was found. -/
structure FaultAt where
  /-- The line. -/
  line : Nat
  /-- The fault. -/
  fault : ScriptFault

/-- What is read of a script. -/
abbrev Read := StateT Reader (Except FaultAt)

/-- Fails. -/
def blame {α : Type} (fault : ScriptFault) : Read α := do
  throw ⟨(← get).line, fault⟩

/-! ## Characters -/

/-- The end of the text of an alias. -/
def aliasEnd : Char := Char.ofNat 0x100

/-- The end of the text of an alias that ends with a blank. -/
def aliasEndBlank : Char := Char.ofNat 0x101

namespace Reader

/-- The reader behind the text of an alias; a blank at its end says that the next word may be one
too. -/
def leave (r : Reader) (isBlank : Bool) : Reader :=
  { r with
    entered := r.entered.tail
    left := (r.entered.headD []) ++ r.left
    checks := { r.checks with aliases := r.checks.aliases || isBlank } }

/-- The next character of a text. -/
def next : Chars → Reader → Option Char × Reader
  | [], r => (none, { r with rest := [] })
  | c :: rest, r =>
    if c = aliasEnd then next rest (r.leave false)
    else if c = aliasEndBlank then next rest (r.leave true)
    else (some c, { r with rest })

/-- The next character of a text whose lines may be joined. -/
def nextJoined : Chars → Reader → Option Char × Reader
  | '\\' :: '\n' :: rest, r => nextJoined rest { r with line := r.line + 1, left := [] }
  | [], r => (none, { r with rest := [] })
  | c :: rest, r =>
    if c = aliasEnd then nextJoined rest (r.leave false)
    else if c = aliasEndBlank then nextJoined rest (r.leave true)
    else (some c, { r with rest })

end Reader

/-- The next character. -/
def next : Read (Option Char) := fun r => .ok (Reader.next r.rest { r with left := [] })

/-- The next character, behind joined lines. -/
def nextJoined : Read (Option Char) :=
  fun r => .ok (Reader.nextJoined r.rest { r with left := [] })

/-- Gives a character back. -/
def putBack (c : Option Char) : Read Unit :=
  modify fun r => { r with rest := c.toList ++ r.rest }

/-- Counts a line. -/
def countLine : Read Unit := modify fun r => { r with line := r.line + 1 }

/-- Gives the last token back. -/
def pushBack : Read Unit := modify fun r => { r with pushed := true }

/-- Sets what the next token is looked at for. -/
def check (checks : Checks) : Read Unit := modify fun r => { r with checks }

/-- How many steps a script is read in at most. -/
def readLimit : Nat := 1000000000

/-- The characters from one on that satisfy a test, and the one behind them. -/
def nextWhile (test : Char → Bool) : Nat → Chars → Option Char → Read (Chars × Option Char)
  | 0, acc, c => return (acc.reverse, c)
  | fuel + 1, acc, c =>
    match c with
    | some d => if test d then do nextWhile test fuel (d :: acc) (← nextJoined)
      else return (acc.reverse, c)
    | none => return (acc.reverse, c)

/-! ## What characters mean -/

/-- The quotes that are open. -/
inductive Quoting where
  /-- None. -/
  | bare
  | single
  | double
  /-- The parentheses of an arithmetic expression. -/
  | sum
  deriving DecidableEq, Inhabited

/-- What a character means. -/
inductive CharClass where
  | plain | newline | backslash | single | double | endQuote | backquote | dollar | endBrace
  | special | control | opening | closing
  deriving DecidableEq

/-- The characters that have a meaning in patterns and names of files. -/
def controls : List Char := ['!', '*', '?', '[', '=', '~', ':', '/', '-', ']']

/-- What a character means within some quotes. -/
def classOf (q : Quoting) (c : Char) : CharClass :=
  if c = '\n' then .newline
  else
    match q with
    | .single => if c = '\'' then .endQuote else if c = '\\' ∨ c ∈ controls then .control else .plain
    | q =>
      if c = '\\' then .backslash
      else if c = '\x60' then .backquote
      else if c = '$' then .dollar
      else if c = '\x7d' then .endBrace
      else
        match q with
        | .bare =>
          if c = '\'' then .single
          else if c = '"' then .double
          else if c ∈ ['<', '>', '(', ')', ';', '&', '|', ' ', '\t'] then .special
          else .plain
        | .sum => if c = '(' then .opening else if c = ')' then .closing else .plain
        | _ => if c = '"' then .endQuote else if c ∈ controls then .control else .plain

/-- What is open at some place in a word. -/
structure Frame where
  /-- The quotes. -/
  quoting : Quoting
  /-- Whether double quotes are open within braces. -/
  inner : Bool := false
  /-- Whether the frame ends with its braces. -/
  ofBraces : Bool := false
  /-- Whether the text is within double quotes. -/
  double : Bool := false
  /-- How many braces are open. -/
  braces : Nat := 0
  /-- How many of them are within double quotes. -/
  doubleBraces : Nat := 0
  /-- How many parentheses are open. -/
  parens : Nat := 0
  deriving Inhabited

/-- A part of a word that is not complete yet. -/
inductive Begun where
  | param (name : Chars) (op : ParamOp)
  | sum

/-- A word that is not complete yet. -/
structure Draft where
  /-- What is open. -/
  frame : Frame
  /-- What is open around that. -/
  below : List Frame := []
  /-- The parts of what is open, the last one first. -/
  parts : Word := []
  /-- The parts that are not complete, and what is in front of them, the innermost one first. -/
  outer : List (Begun × Word) := []
  /-- Whether something was quoted. -/
  quoted : Bool := false
  deriving Inhabited

namespace Draft

/-- The draft with another part. -/
def put (d : Draft) (p : Part Cmd) : Draft := { d with parts := p :: d.parts }

/-- The draft with the innermost frame changed. -/
def change (d : Draft) (f : Frame → Frame) : Draft := { d with frame := f d.frame }

/-- The draft in a new frame. -/
def push (d : Draft) (f : Frame) : Draft := { d with frame := f, below := d.frame :: d.below }

/-- The draft without its innermost frame. -/
def pop (d : Draft) : Draft := { d with frame := d.below.headD d.frame, below := d.below.tail }

/-- The draft with a part that is begun. -/
def start (d : Draft) (b : Begun) : Draft :=
  { d with outer := (b, d.parts) :: d.outer, parts := [] }

/-- The draft in which the innermost part is complete. -/
def complete (d : Draft) : Draft :=
  match d.outer with
  | [] => d
  | (b, parts) :: outer =>
    let inner := d.parts.reverse
    let part : Part Cmd := match b with
      | .param name op => .param name op inner
      | .sum => .sum inner
    { d with outer, parts := part :: parts }

/-- The word. -/
def word (d : Draft) : Word := d.parts.reverse

end Draft

/-! ## Parameters -/

/-- The characters that are names of parameters. -/
def specialParams : List Char := ['#', '?', '$', '!', '-', '*', '@']

/-- Whether a character satisfies a test. -/
def isOne (c : Option Char) (test : Char → Bool) : Bool := c.any test

/-- The name of a parameter, of which `c` is the first character, whether its length is asked for,
and the character behind it; there may be no such name. -/
def paramName (braced : Bool) (c : Option Char) : Read (Option Chars × Bool × Option Char) := do
  let named (isLength : Bool) (c : Option Char) : Read (Option Chars × Bool × Option Char) := do
    if isOne c isNameStart then
      let (name, c) ← nextWhile isNameChar readLimit [] c
      return (some name, isLength, c)
    else
      let (name, c) ← nextWhile Char.isDigit (if braced then readLimit else 1) [] c
      return (some name, isLength, c)
  if isOne c isNameStart || isOne c Char.isDigit then named false c
  else if c = some '\x7d' then return (none, false, c)
  else
    let special := c
    let c ← nextJoined
    let check (special : Option Char) (isLength : Bool) (c : Option Char) :
        Option Chars × Bool × Option Char :=
      if isOne special fun s => specialParams.contains s || s.isDigit then
        (some special.toList, isLength, c)
      else (none, false, c)
    if braced && special == some '#' then
      if isOne c isNameChar then named true c
      else
        let second := c
        let c ← nextJoined
        if second == some '\x7d' || c != some '\x7d' then
          putBack c
          return check (some '#') false second
        else return check second true c
    else return check special false c

/-- The operator of a parameter in braces, of which `c` is the first character, and whether its
operand is read without quotes. -/
def paramOp (c : Option Char) : Read (ParamOp × Bool) := do
  let ofChar (colon : Bool) (c : Option Char) : ParamOp :=
    match c with
    | some '\x7d' => if colon then .wrong else .value
    | some '-' => .orElse colon
    | some '+' => .instead colon
    | some '?' => .demand colon
    | some '=' => .assign colon
    | _ => .wrong
  match c with
  | some ':' => return (ofChar true (← nextJoined), false)
  | some '%' | some '#' =>
    let second ← nextJoined
    let longest := second == c
    if !longest then putBack second
    return (if c = some '%' then .dropEnd longest else .dropStart longest, true)
  | c => return (ofChar false c, false)

/-- Reads the parameter that follows a dollar sign, of which `c` is the first character. -/
def readParam (d : Draft) (c : Option Char) : Read Draft := do
  let braced := c == some '\x7b'
  let (name?, isLength, c) ← paramName braced (← if braced then nextJoined else pure c)
  let (op, isBare) ← match name? with
    | none => do
      putBack c
      pure (ParamOp.wrong, false)
    | some _ =>
      if !braced then do
        putBack c
        pure (ParamOp.value, false)
      else if isLength then do
        putBack c
        pure (if c = some '\x7d' then ParamOp.length else ParamOp.wrong, false)
      else paramOp c
  let name := name?.getD []
  if op = .value then return d.put (.param name op [])
  else
    let own : Quoting := if isBare then .bare else d.frame.quoting
    let quoting : Quoting := if own = .sum then .double else own
    let d := d.start (.param name op)
    let d := if quoting ≠ d.frame.quoting ∨ d.frame.inner then
        d.push { quoting, ofBraces := true, double := quoting != .bare }
      else d
    return d.change fun f => { f with
      braces := f.braces + 1
      doubleBraces := if f.double then f.doubleBraces + 1 else f.doubleBraces }

/-! ## Single characters -/

/-- What is to be done behind a character of a word. -/
inductive Step where
  /-- The next character is read. -/
  | more (d : Draft)
  /-- A new line begins. -/
  | line (d : Draft)
  /-- The word is over. -/
  | ended
  /-- A command in parentheses follows. -/
  | command (d : Draft)
  /-- A command in backquotes follows. -/
  | backquote (d : Draft)

/-- Reads one character of a word; `here` says that the word is a text of the following lines. -/
def readChar (here : Bool) (d : Draft) (c : Char) : Read Step := do
  let f := d.frame
  let quoteMark (d : Draft) : Draft := if here then d else d.put .mark
  let toggled (d : Draft) : Draft :=
    quoteMark (d.change fun f => { f with inner := if f.braces = 0 then f.inner else !f.inner })
  match classOf f.quoting c with
  | .newline =>
    if f.quoting = .bare ∧ f.braces = 0 then return .ended
    else
      countLine
      return .line (d.put (.char c))
  | .plain => return .more (d.put (.char c))
  | .control =>
    return .more (d.put (if !here || f.double || f.braces != 0 then .escaped c else .char c))
  | .backslash =>
    match ← next with
    | none => return .more (d.put (.escaped '\\'))
    | some e =>
      let keeps := f.double && !(e ∈ ['\\', '\x60', '$']) && (e != '"' || (here && f.braces == 0))
        && (e != '\x7d' || f.braces == 0)
      let d := if keeps then d.put (.escaped '\\') else d
      return .more { d.put (.escaped e) with quoted := true }
  | .single => return .more (quoteMark (d.change ({ · with quoting := .single })))
  | .double => return .more (toggled (d.change ({ · with quoting := .double, double := true })))
  | .endQuote =>
    if here && f.braces == 0 then return .more (d.put (.char c))
    else
      let d := if f.doubleBraces = 0 then
          d.change ({ · with quoting := .bare, double := false })
        else d
      let d := { d with quoted := true }
      return .more (if c = '"' then toggled d else quoteMark d)
  | .dollar =>
    let e ← nextJoined
    let begins := isOne e fun e =>
      e ∈ ['(', '\x7b'] || isNameStart e || specialParams.contains e || e.isDigit
    if (← get).checks.mark || !begins then
      putBack e
      return .more (d.put (.char c))
    else if e = some '(' then
      match ← nextJoined with
      | some '(' =>
        return .more ((d.start .sum).push { quoting := .sum, double := true })
      | e =>
        putBack e
        return .command d
    else return .more (← readParam d e)
  | .endBrace =>
    if !f.inner && 0 < f.braces then
      let d := d.complete.change ({ · with braces := f.braces - 1 })
      if f.braces = 1 ∧ f.ofBraces then return .more d.pop
      else return .more (d.change fun f => { f with doubleBraces := f.doubleBraces - 1 })
    else return .more (d.put (.char c))
  | .opening => return .more (d.put (.char c) |>.change fun f => { f with parens := f.parens + 1 })
  | .closing =>
    if 0 < f.parens then
      return .more (d.put (.char c) |>.change fun f => { f with parens := f.parens - 1 })
    else
      match ← nextJoined with
      | some ')' => return .more d.complete.pop
      | e =>
        putBack e
        return .more (d.put (.char c))
  | .backquote =>
    if (← get).checks.mark then return .more (d.put (.char c)) else return .backquote d
  | .special => if f.braces = 0 then return .ended else return .more (d.put (.char c))

/-- The next character behind a part of a word. -/
def nextIn (d : Draft) : Read (Option Char) :=
  if d.frame.quoting = .single then next else nextJoined

/-! ## Texts of the following lines -/

/-- Passes over tabs from a character on. -/
def skipTabs : Nat → Option Char → Read (Option Char)
  | 0, c => return c
  | fuel + 1, c => if c = some '\t' then do skipTabs fuel (← next) else return c

/-- Whether the mark of a text stands from a character on, alone on its line; else all is given
back but for the character. `passed` holds the characters that were passed, the last one first. -/
def meetsMark : Chars → Chars → Option Char → Read Bool
  | [], passed, c => do
    if c = none ∨ c = some '\n' then
      countLine
      return true
    else
      modify fun r => { r with rest := ((c.toList ++ passed).reverse.drop 1) ++ r.rest }
      return false
  | m :: mark, passed, c => do
    if c = some m then meetsMark mark (m :: passed) (← nextJoined)
    else
      modify fun r => { r with rest := ((c.toList ++ passed).reverse.drop 1) ++ r.rest }
      return false

/-- The character that a line of a text begins with, or nothing if the line is its mark. -/
def lineStart (here : Option Pending) (c : Option Char) : Read (Option Char) := do
  match here with
  | none => return c
  | some p =>
    let c ← if p.strips then skipTabs readLimit c else pure c
    if ← meetsMark p.mark [] c then return none else return c

/-! ## Commands in backquotes -/

/-- The text up to the closing backquote, without the backslashes that hide a character in it. -/
def backquoted (double : Bool) : Nat → Chars → Read Chars
  | 0, _ => blame .tooDeep
  | fuel + 1, acc => do
    match ← nextJoined with
    | none => blame .openBackquote
    | some '\x60' => return acc.reverse
    | some '\\' =>
      match ← next with
      | none => blame .openBackquote
      | some e =>
        if e ∈ ['\\', '\x60', '$'] || (double && e == '"') then backquoted double fuel (e :: acc)
        else
          if e = '\n' then countLine
          backquoted double fuel (e :: '\\' :: acc)
    | some c =>
      if c = '\n' then countLine
      backquoted double fuel (c :: acc)

end RoundTrip.Shell
