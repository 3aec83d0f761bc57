import RoundTrip.Machine.Shell.Script.Word

/-!
# Reading scripts

A script is read one complete command at a time, so that what a command changes, such as an alias,
counts for the next one (`Reader.command`). Texts that redirections take from the following lines
are read at the end of the line.
-/

namespace RoundTrip.Shell

open Machine

/-- The commands of the shell that count as part of its language. -/
def specialNames : List String :=
  [".", ":", "break", "continue", "eval", "exec", "exit", "export", "local", "readonly", "return",
    "set", "shift", "times", "trap", "unset"]

namespace Script

/-- Keywords and aliases. -/
def named : Checks := { keywords := true, aliases := true }

/-- Keywords and aliases behind ends of lines. -/
def behindLines : Checks := { named with newlines := true }

/-- Fails since the last token is not an expected one. -/
def refuse {α : Type} (expected : Option Token) : Read α := do
  blame (.unexpected (← get).token expected)

/-- Makes a token the last one. -/
def became (t : Token) : Read Token := do
  modify fun r => { r with token := t }
  return t

/-- The operator that begins with a character, which is doubled for `double`. -/
def operator (c : Char) (single double : Token) : Read Token := do
  let second ← nextJoined
  if second = some c then became double
  else
    putBack second
    became single

/-- The redirection that an angle bracket begins, behind the number of a stream if there is one. -/
def redirection (stream : Option Nat) (c : Char) : Read Token := do
  let second ← nextJoined
  let op ← match c, second with
    | '>', some '>' => pure ">>"
    | '>', some '|' => pure ">|"
    | '>', some '&' => pure ">&"
    | '<', some '&' => pure "<&"
    | '<', some '>' => pure "<>"
    | '<', some '<' => do
      let third ← nextJoined
      if third = some '-' then pure "<<-"
      else
        putBack third
        pure "<<"
    | c, second => do
      putBack second
      pure (String.singleton c)
  modify fun r => { r with redirect := (stream.getD (if c = '>' then 1 else 0), op) }
  became .redirect

/-- Ends a word in front of a character; a digit or nothing in front of an angle bracket belongs to
a redirection. -/
def endWord (here : Bool) (d : Draft) (c : Option Char) : Read Token := do
  if d.frame.quoting = .sum then blame .openSum
  else if d.frame.quoting ≠ .bare ∧ ¬here then blame .openQuote
  else if d.frame.braces ≠ 0 then blame .openBrace
  else
    let stream? : Option (Option Nat) :=
      if here || d.quoted then none
      else
        match d.parts with
        | [] => some none
        | [.char n] => if n.isDigit then some (some (n.toNat - '0'.toNat)) else none
        | _ => none
    match stream?, c with
    | some stream, some '<' => redirection stream '<'
    | some stream, some '>' => redirection stream '>'
    | _, c =>
      if !here then putBack c
      modify fun r => { r with word := d.word, quoted := d.quoted }
      became .word

/-- Reads a comment. -/
def skipComment : Read Unit :=
  modify fun r => { r with rest := r.rest.dropWhile (· != '\n') }

/-- A command with its redirections. -/
def withRedirects (line : Nat) (c : Cmd) (redirects : List (Redirect Cmd)) : Cmd :=
  match redirects, c with
  | [], c => c
  | rs, .sub line body _ => .sub line body rs
  | rs, c => .redirected line c rs

/-- A command that nobody waits for. -/
def inBackground (line : Nat) : Cmd → Cmd
  | .pipe cmds _ => .pipe cmds true
  | .redirected line body redirects => .background line body redirects
  | c => .background line c []

/-- The target of a redirection whose word is the last one. -/
def target (op : String) : Read (Target Cmd) := do
  let r ← get
  match op with
  | "<" => return .file .read r.word
  | ">" => return .file .create r.word
  | ">|" => return .file .write r.word
  | ">>" => return .file .append r.word
  | "<>" => return .file .update r.word
  | "<&" | ">&" =>
    match r.word with
    | [.char '-'] => return .same none
    | [.char c] => return if c.isDigit then .same (some (c.toNat - '0'.toNat)) else .sameAs r.word
    | w => return .sameAs w
  | op =>
    let id := r.texts.size + r.pending.length
    let p : Pending := { id, mark := r.word.text, strips := op == "<<-", literal := r.quoted }
    set { r with pending := r.pending ++ [p] }
    return .text id

mutual

/-- The next token, whatever it is looked at for. -/
def rawToken : Nat → Read Token
  | 0 => blame .tooDeep
  | fuel + 1 => do
    let r ← get
    if r.pushed then
      set { r with pushed := false }
      return r.token
    else
      match ← nextJoined with
      | none => became .eof
      | some ' ' | some '\t' => rawToken fuel
      | some '#' =>
        skipComment
        rawToken fuel
      | some '\n' =>
        countLine
        became .newline
      | some '&' => operator '&' .background .and
      | some '|' => operator '|' .pipe .or
      | some ';' => operator ';' .semi .endCase
      | some '(' => became .opening
      | some ')' => became .closing
      | some c => chars fuel none { frame := { quoting := .bare } } (some c)

/-- The next token. -/
def token : Nat → Read Token
  | 0 => blame .tooDeep
  | fuel + 1 => do
    let wanted := (← get).checks
    let t ← rawToken fuel
    let t ← if wanted.newlines then afterLines fuel t else pure t
    let found := (← get).checks
    check {}
    let r ← get
    if t ≠ .word ∨ r.quoted then return t
    else
      let name? := r.word.plain?
      let keyword? := if wanted.keywords || found.keywords then
          keywords.find? fun k => name? == some k.toList
        else none
      match keyword? with
      | some k => became (.keyword k)
      | none =>
        let text? := if wanted.aliases || found.aliases then
            (name?.filter fun n => !(r.entered.flatten ++ r.left).contains n).bind fun n =>
              (r.aliases.lookup n).map (n, ·)
          else none
        match text? with
        | none => return t
        | some (name, text) =>
          if !text.isEmpty then
            let isBlank := text.getLast? == some ' ' || text.getLast? == some '\t'
            let end_ := if isBlank then aliasEndBlank else aliasEnd
            set { r with
              rest := text ++ end_ :: r.rest, entered := (name :: r.left) :: r.entered
              left := [] }
          check { wanted with
            keywords := wanted.keywords || found.keywords
            aliases := wanted.aliases || found.aliases }
          token fuel

/-- The first token that is no end of a line, from one on. -/
def afterLines : Nat → Token → Read Token
  | 0, _ => blame .tooDeep
  | fuel + 1, t => do
    if t = .newline then
      texts fuel
      check {}
      afterLines fuel (← rawToken fuel)
    else return t

/-- Reads the texts that are to be read at the end of a line. -/
def texts : Nat → Read Unit
  | 0 => blame .tooDeep
  | fuel + 1 => do
    match (← get).pending with
    | [] => return
    | p :: rest =>
      modify fun r => { r with pending := rest, pushed := false }
      let quoting : Quoting := if p.literal then .single else .double
      let c ← if p.literal then next else nextJoined
      let c ← lineStart (some p) c
      let _ ← chars fuel (some p) { frame := { quoting, double := !p.literal } } c
      modify fun r => { r with texts := r.texts.push r.word }
      texts fuel

/-- Reads a word from a character on; `here` is the text that it is, if it is one. -/
def chars : Nat → Option Pending → Draft → Option Char → Read Token
  | 0, _, _, _ => blame .tooDeep
  | fuel + 1, here, d, c => do
    match c with
    | none => endWord here.isSome d none
    | some c =>
      match ← readChar here.isSome d c with
      | .ended => endWord here.isSome d (some c)
      | .more d => chars fuel here d (← nextIn d)
      | .line d => chars fuel here d (← lineStart here (← next))
      | .command d =>
        let pending := (← get).pending
        modify fun r => { r with pending := [] }
        let body ← list fuel false true none
        if (← token fuel) ≠ .closing then refuse (some .closing)
        modify fun r => { r with
          texts := r.texts ++ (r.pending.map fun _ => ([] : Word)), pending }
        let d := d.put (.output (body.getD .nothing))
        chars fuel here d (← nextIn d)
      | .backquote d =>
        let text ← backquoted d.frame.double readLimit []
        let r ← get
        set { r with rest := text, line := 1, pending := [], entered := [], left := [] }
        let body ← list fuel false true none
        texts fuel
        modify fun s => { s with
          rest := r.rest, line := r.line, pending := r.pending, entered := r.entered,
          left := r.left, pushed := false }
        let d := d.put (.output (body.getD .nothing))
        chars fuel here d (← nextIn d)

/-- The commands up to a token that ends them, or, if they are `isTop`, up to the end of the line.
There may be none if `mayEnd`; `before` are those that were read. -/
def list : Nat → Bool → Bool → Option Cmd → Read (Option Cmd)
  | 0, _, _, _ => blame .tooDeep
  | fuel + 1, isTop, mayEnd, before => do
    check { named with newlines := !isTop }
    let ended : Read Unit := do
      texts fuel
      modify fun r => { r with pushed := true, token := .eof }
    let t ← token fuel
    if t = .newline then
      texts fuel
      return before
    else if t = .eof then
      ended
      return before
    else
      pushBack
      if !isTop && mayEnd && t.endsList then return before
      else
        let line := (← get).line
        let c ← andOr fuel
        let t ← token fuel
        let c := if t = .background then inBackground line c else c
        let whole : Cmd := match before with
          | none => c
          | some b => .seq b c
        match t with
        | .eof =>
          ended
          return some whole
        | .newline =>
          pushBack
          list fuel isTop true (some whole)
        | .background | .semi => list fuel isTop true (some whole)
        | _ =>
          if isTop then refuse none
          else
            pushBack
            return some whole

/-- Pipes, of which each one may depend on those in front of it. -/
def andOr : Nat → Read Cmd
  | 0 => blame .tooDeep
  | fuel + 1 => do andOrRest fuel (← pipeline fuel)

/-- The pipes behind one. -/
def andOrRest : Nat → Cmd → Read Cmd
  | 0, _ => blame .tooDeep
  | fuel + 1, first => do
    let t ← token fuel
    if t = .and ∨ t = .or then
      check behindLines
      let second ← pipeline fuel
      andOrRest fuel (if t = .and then .andThen first second else .orElse first second)
    else
      pushBack
      return first

/-- A pipe. -/
def pipeline : Nat → Read Cmd
  | 0 => blame .tooDeep
  | fuel + 1 => do
    let negated := (← token fuel) == .keyword "!"
    if negated then check named else pushBack
    let first ← command fuel
    let cmds ← pipeRest fuel [first]
    let c : Cmd := match cmds with
      | [c] => c
      | cs => .pipe cs false
    return if negated then .not c else c

/-- The commands of a pipe behind some, of which the last one comes first. -/
def pipeRest : Nat → List Cmd → Read (List Cmd)
  | 0, _ => blame .tooDeep
  | fuel + 1, before => do
    if (← token fuel) = .pipe then
      check behindLines
      pipeRest fuel ((← command fuel) :: before)
    else
      pushBack
      return before.reverse

/-- The commands of a part of a compound command, of which there is at least one, up to a
keyword. -/
def part : Nat → String → Read Cmd
  | 0, _ => blame .tooDeep
  | fuel + 1, stop => do
    let c ← list fuel false false none
    if (← token fuel) ≠ .keyword stop then refuse (some (.keyword stop))
    return c.getD .nothing

/-- What is done if the tests of a choice so far fail. -/
def otherwise : Nat → Read Cmd
  | 0 => blame .tooDeep
  | fuel + 1 => do
    match ← token fuel with
    | .keyword "elif" =>
      let test ← part fuel "then"
      let yes ← list fuel false false none
      return .cond test (yes.getD .nothing) (← otherwise fuel)
    | .keyword "else" => return (← list fuel false false none).getD .nothing
    | _ =>
      pushBack
      return .nothing

/-- The words up to a token that is none. -/
def words : Nat → List Word → Read (List Word)
  | 0, _ => blame .tooDeep
  | fuel + 1, before => do
    if (← token fuel) = .word then words fuel ((← get).word :: before)
    else return before.reverse

/-- The patterns of a case from the last word on, up to the closing parenthesis. -/
def patterns : Nat → List Word → Read (List Word)
  | 0, _ => blame .tooDeep
  | fuel + 1, before => do
    let ps := (← get).word :: before
    if (← token fuel) = .pipe then
      let _ ← token fuel
      patterns fuel ps
    else if (← get).token ≠ .closing then refuse (some .closing)
    else return ps.reverse

/-- The cases of a choice by patterns. -/
def cases : Nat → List (List Word × Cmd) → Read (List (List Word × Cmd))
  | 0, _ => blame .tooDeep
  | fuel + 1, before => do
    check { keywords := true, newlines := true }
    let t ← token fuel
    if t = .keyword "esac" then return before.reverse
    else
      if t = .opening then
        let _ ← token fuel
      let ps ← patterns fuel []
      let body := (← list fuel false true none).getD .nothing
      check { keywords := true, newlines := true }
      let t ← token fuel
      let before := (ps, body) :: before
      if t = .keyword "esac" then return before.reverse
      else if t ≠ .endCase then refuse (some .endCase)
      else cases fuel before

/-- A redirection, behind its operator. -/
def redirect : Nat → Read (Redirect Cmd)
  | 0 => blame .tooDeep
  | fuel + 1 => do
    let (stream, op) := (← get).redirect
    if op == "<<" || op == "<<-" then check { mark := true }
    if (← token fuel) ≠ .word then refuse none
    return ⟨stream, ← target op⟩

/-- The redirections behind a command. -/
def redirects : Nat → List (Redirect Cmd) → Read (List (Redirect Cmd))
  | 0, _ => blame .tooDeep
  | fuel + 1, before => do
    if (← token fuel) = .redirect then redirects fuel ((← redirect fuel) :: before)
    else
      pushBack
      return before.reverse

/-- A command. -/
def command : Nat → Read Cmd
  | 0 => blame .tooDeep
  | fuel + 1 => do
    let line := (← get).line
    let first ← token fuel
    let closed (stop : Token) (c : Cmd) : Read Cmd := do
      if (← token fuel) ≠ stop then refuse (some stop)
      return c
    let compound (c : Cmd) : Read Cmd := do
      check named
      return withRedirects line c (← redirects fuel [])
    match first with
    | .keyword "if" =>
      let test ← part fuel "then"
      let yes ← list fuel false false none
      let no ← otherwise fuel
      compound (← closed (.keyword "fi") (.cond test (yes.getD .nothing) no))
    | .keyword "while" | .keyword "until" =>
      let test ← part fuel "do"
      let body ← part fuel "done"
      compound (.loop (first == .keyword "until") test body)
    | .keyword "for" =>
      let t ← token fuel
      let r ← get
      let name := (r.word.plain?.filter isName).getD []
      if t ≠ .word ∨ r.quoted ∨ name.isEmpty then blame .badVariable
      check behindLines
      let items ← if (← token fuel) = .keyword "in" then do
          let items ← words fuel []
          let t := (← get).token
          if t ≠ .newline ∧ t ≠ .semi then refuse none
          pure items
        else do
          if (← get).token ≠ .semi then pushBack
          pure [[.mark, .param ['@'] .value [], .mark]]
      check behindLines
      if (← token fuel) ≠ .keyword "do" then refuse (some (.keyword "do"))
      let body ← part fuel "done"
      compound (.each line name items body)
    | .keyword "case" =>
      if (← token fuel) ≠ .word then refuse (some .word)
      let word := (← get).word
      check behindLines
      if (← token fuel) ≠ .keyword "in" then refuse (some (.keyword "in"))
      compound (.choose line word (← cases fuel []))
    | .opening =>
      let body ← list fuel false false none
      compound (← closed .closing (.sub line (body.getD .nothing) []))
    | .keyword "\x7b" => compound (← part fuel "\x7d")
    | .word | .redirect =>
      pushBack
      simple fuel (← get).line true [] [] []
    | _ => refuse none

/-- A simple command behind some assignments, words and redirections, of which the last ones come
first; `front` says that there were only assignments. -/
def simple : Nat → Nat → Bool → List Word → List Word → List (Redirect Cmd) → Read Cmd
  | 0, _, _, _, _, _ => blame .tooDeep
  | fuel + 1, line, front, assigns, args, reds => do
    check { aliases := front }
    let whole : Read Cmd := do
      pushBack
      return .simple line assigns.reverse args.reverse reds.reverse
    match ← token fuel with
    | .word =>
      let w := (← get).word
      if front && w.isAssignment then simple fuel line true (w :: assigns) args reds
      else simple fuel line false assigns (w :: args) reds
    | .redirect =>
      let r ← redirect fuel
      simple fuel line front assigns args (r :: reds)
    | .opening =>
      match args, assigns, reds with
      | [word], [], [] =>
        if (← token fuel) ≠ .closing then refuse (some .closing)
        let name := word.plain?.getD []
        if !isName name || specialNames.any (·.toList == name) then blame .badFunction
        check behindLines
        return .define name (← command fuel)
      | _, _, _ => whole
    | _ => whole

end

end Script

namespace Reader

/-- Reads the next complete command, which is `none` at the end of the script; a line without a
command counts as `Cmd.nothing`. -/
def command? (r : Reader) : Except FaultAt (Option Cmd × Reader) := do
  let r := { r with pushed := false, checks := {}, pending := [] }
  let (c?, r) ← (Script.list readLimit true false none).run r
  match c?, r.token with
  | some c, _ => return (some c, r)
  | none, .eof => return (none, r)
  | none, _ => return (some .nothing, r)

/-- Whether a command that was read ended with the script. -/
def isAtEnd (r : Reader) : Bool := r.pushed && r.token == .eof

end Reader

end RoundTrip.Shell
