import RoundTrip.Machine.Programs.Basic
import RoundTrip.Text.Regex.Reader

/-!
# Searching lines

`grep` prints the lines of files in which an expression occurs. What is printed of a file is found
out first for all of its lines (`Search.report`), and then printed in one piece. A file that holds
a zero byte is not printed, and neither is a line that is no text; that they are selected is said
once for each file.
-/

namespace RoundTrip.Machine

/-- How expressions are written. -/
inductive PatternKind where
  | basic | extended | fixed
  deriving DecidableEq, Inhabited

/-- What is done with files that hold selected lines, or none. -/
inductive Listing where
  | lines | names | others
  deriving DecidableEq, Inhabited

/-- A search. -/
structure Search where
  /-- The expressions, of which one must occur. -/
  patterns : List Regex
  /-- Whether case does not count. -/
  fold : Bool
  /-- Whether lines in which none occurs are selected. -/
  inverted : Bool
  /-- Whether only stretches that are words count. -/
  word : Bool
  /-- Whether only whole lines count. -/
  whole : Bool
  /-- What is listed. -/
  listing : Listing
  /-- Whether selected lines are counted. -/
  count : Bool
  /-- Whether nothing is printed. -/
  quiet : Bool
  /-- Whether only the stretches are printed. -/
  only : Bool
  /-- Whether the numbers of lines are printed. -/
  numbers : Bool
  /-- Whether it is printed how many bytes stand before a line. -/
  offsets : Bool
  /-- Whether the names of files are printed. -/
  labels : Bool
  /-- Whether a name ends in a zero byte. -/
  zeros : Bool
  /-- Whether all files are taken for texts. -/
  asText : Bool
  /-- Whether files that are no texts are passed over. -/
  onlyText : Bool
  /-- Whether what stands in front of a line is followed by a tab. -/
  tabs : Bool
  /-- The character that ends a line. -/
  eol : Char
  /-- What standard input is called. -/
  inputName : Chars
  /-- Whether nothing is said of files that cannot be read. -/
  silent : Bool
  /-- Whether directories are searched. -/
  deep : Bool
  /-- Whether directories are passed over. -/
  skipDirs : Bool
  /-- How many lines are selected in a file at most. -/
  most : Option Nat
  /-- How many lines are printed before a selected one. -/
  before : Nat
  /-- How many lines are printed behind a selected one. -/
  after : Nat
  /-- What stands between groups of lines, if lines are grouped. -/
  groupMark : Option Chars

/-- The characters of a text that is UTF-8; other texts are taken byte by byte. -/
def decoded (text : Chars) : List Char :=
  if text.all (·.toNat < 0x80) then text
  else
    match Utf8.decode? (bytesOf text) with
    | some s => s.toList
    | none => text

/-- The bytes of characters that `decoded` gave for a text. -/
def encoded (text : Chars) (chars : List Char) : Chars :=
  if (Utf8.decode? (bytesOf text)).isSome then charsOfText (String.ofList chars) else chars

/-- Whether a text can be printed. -/
def isText (text : Chars) : Bool :=
  text.all (·.toNat < 0x80) || (Utf8.decode? (bytesOf text)).isSome

namespace Search

/-- Whether a stretch counts. -/
def wanted (s : Search) (a b : Regex.Spot) : Bool :=
  (!s.whole || (a.before.isNone && b.rest.isEmpty)) && (!s.word || (!a.sides.1 && !b.sides.2))

/-- The first stretch from a place on that counts, and of those that begin there the longest. -/
def next? (s : Search) (from_ : Regex.Spot) : Option (Regex.Spot × Regex.Spot) :=
  s.patterns.foldl (fun best r =>
    match best, r.find? s.fold s.wanted (from_.left + 1) from_ with
    | none, found => found
    | best, none => best
    | some (a, b), some (x, y) =>
      if a.left < x.left || (a.left == x.left && y.left < b.left) then some (x, y)
      else some (a, b)) none

/-- Whether a line is selected. -/
def selects (s : Search) (line : Chars) : Bool :=
  (s.next? (.ofText (decoded line))).isSome != s.inverted

/-- The stretches of a line from a place on that are not empty, each with how many characters stand
before it; at most `fuel` places are tried. -/
def stretches (s : Search) (size : Nat) : Nat → Regex.Spot → List (Nat × List Char)
  | 0, _ => []
  | fuel + 1, from_ =>
    match s.next? from_ with
    | none => []
    | some (a, b) =>
      if b.left < a.left then
        (size - a.left, a.upTo b) :: stretches s size fuel { b with groups := [] }
      else
        match a.next? with
        | some a => stretches s size fuel { a with groups := [] }
        | none => []

/-- A file that is searched. -/
structure Source where
  /-- What it is called. -/
  name : Chars
  /-- How wide numbers are in front of a tab. -/
  width : Nat

/-- What stands in front of a line or a stretch; `mark` says whether it is selected. -/
def front (s : Search) (source : Source) (mark : Char) (number offset : Nat) (text : Chars) :
    Chars :=
  let counted (n : Nat) : Chars :=
    let digits := Nat.toDigits 10 n
    List.replicate (if s.tabs then source.width - digits.length else 0) ' ' ++ digits ++ [mark]
  let shown := (if s.labels then source.name ++ [if s.zeros then '\x00' else mark] else [])
    ++ (if s.numbers then counted number else []) ++ (if s.offsets then counted offset else [])
  if s.tabs && !shown.isEmpty && !text.isEmpty then shown ++ ['\t'] else shown

/-- What is known of a file while its lines are searched. -/
structure Progress where
  /-- What is printed, piece by piece, the last first. -/
  pieces : List Chars := []
  /-- How many lines were selected. -/
  selected : Nat := 0
  /-- Whether a selected line is not printed because it is no text. -/
  hidden : Bool := false
  /-- The lines since the last one that was printed, the last first. -/
  recent : List (Chars × Nat × Nat) := []
  /-- Whether lines since the last one that was printed were forgotten. -/
  gap : Bool := false
  /-- How many lines are still printed behind the last selected one. -/
  trailing : Nat := 0

namespace Progress

/-- With a line or a stretch printed, unless it is no text. -/
def put (p : Progress) (s : Search) (front text : Chars) : Progress :=
  if s.asText || isText text then { p with pieces := (front ++ text ++ [s.eol]) :: p.pieces }
  else { p with hidden := true }

/-- With a line printed, or the stretches in it; `mark` says whether it is selected. -/
def putLine (p : Progress) (s : Search) (source : Source) (mark : Char) (text : Chars)
    (number offset : Nat) : Progress :=
  if !s.only then p.put s (s.front source mark number offset text) text
  else if (mark == ':') == s.inverted then p
  else
    let chars := decoded text
    let found := s.stretches chars.length (chars.length + 1) (.ofText chars)
    found.foldl (fun (p : Progress) (at_, own) =>
      let offset := offset + (encoded text (chars.take at_)).length
      let own := encoded text own
      p.put s (s.front source mark number offset own) own) p

/-- With the lines printed that stand before a selected one. -/
def putRecent (p : Progress) (s : Search) (source : Source) (begun : Bool) : Progress :=
  let shown := (p.recent.take s.before).reverse
  let apart := p.selected == 0 || p.gap || shown.length < p.recent.length
  let marked := match s.groupMark with
    | some mark => if begun && apart then { p with pieces := (mark ++ ['\n']) :: p.pieces } else p
    | none => p
  let q := shown.foldl (fun (q : Progress) (l, n, o) => q.putLine s source '-' l n o) marked
  { q with recent := [], gap := false }

/-- With a selected line. -/
def select (p : Progress) (s : Search) (source : Source) (begun : Bool) (text : Chars)
    (number offset : Nat) : Progress :=
  let p := (p.putRecent s source begun).putLine s source ':' text number offset
  { p with selected := p.selected + 1, trailing := s.after }

/-- With a line that is not selected. -/
def pass (p : Progress) (s : Search) (source : Source) (text : Chars) (number offset : Nat) :
    Progress :=
  if 0 < p.trailing then
    { p.putLine s source '-' text number offset with trailing := p.trailing - 1 }
  else
    let kept := ((text, number, offset) :: p.recent).take (s.before + 1)
    { p with recent := kept, gap := p.gap || s.before + 1 ≤ p.recent.length }

end Progress

/-- Searches lines; `begun` says that lines of other files were printed, and `stop` that the first
selected line is enough. -/
def scan (s : Search) (source : Source) (begun stop : Bool) :
    List Chars → Nat → Nat → Progress → Progress
  | [], _, _, p => p
  | text :: rest, number, offset, p =>
    let next := offset + text.length + 1
    if s.most.any (· ≤ p.selected) then
      if 0 < p.trailing then
        scan s source begun stop rest (number + 1) next (p.pass s source text number offset)
      else p
    else if s.selects text then
      let shown := begun || 0 < p.selected
      let p := if stop then { p with selected := p.selected + 1 }
        else p.select s source shown text number offset
      if stop then p else scan s source begun stop rest (number + 1) next p
    else scan s source begun stop rest (number + 1) next (p.pass s source text number offset)

/-- Whether only whether a file holds a selected line matters. -/
def isBrief (s : Search) : Bool := s.quiet || s.listing != .lines

/-- The lines of a text, without their ends. -/
def linesIn (s : Search) (text : Chars) : List Chars :=
  let pieces := text.splitOn s.eol
  if pieces.getLast? == some [] then pieces.dropLast else pieces

/-- What is printed of a file. -/
structure Report where
  /-- The text. -/
  shown : Chars
  /-- Whether a line is selected. -/
  found : Bool
  /-- Whether it is said that the file is no text. -/
  hidden : Bool := false
  /-- Whether lines were printed. -/
  begun : Bool := false

/-- What is printed of a file with a name and a text; a zero byte ends a line of a file that is no
text. -/
def report (s : Search) (name text : Chars) (begun : Bool) : Report :=
  let isBinary := text.contains '\x00' && s.eol != '\x00' && !s.asText
  let lines := s.linesIn (if isBinary then text.map fun c => if c = '\x00' then s.eol else c
    else text)
  let source : Source := ⟨name, (Nat.toDigits 10 text.length).length⟩
  let hits (_ : Unit) : Bool :=
    !(isBinary && s.onlyText) && 0 < (s.scan source begun true lines 1 0 {}).selected
  if s.isBrief then
    let found := hits ()
    let isListed := !s.quiet && (s.listing == if found then .names else .others)
    { shown := if isListed then name ++ [if s.zeros then '\x00' else '\n'] else [], found }
  else if s.count then
    let all := if isBinary && s.onlyText then 0 else lines.countP s.selects
    let n := min all (s.most.getD all)
    { shown := (if s.labels then name ++ [if s.zeros then '\x00' else ':'] else [])
        ++ Nat.toDigits 10 n ++ ['\n']
      found := 0 < n }
  else if isBinary then
    let found := hits ()
    { shown := [], found, hidden := found }
  else
    let p := s.scan source begun false lines 1 0 {}
    { shown := p.pieces.reverse.flatten, found := 0 < p.selected
      hidden := p.hidden && !s.onlyText, begun := 0 < p.selected }

end Search

/-! ## The program -/

/-- The options of `grep`. -/
def grepOptions : Options where
  plain := "EFGPivwxclLqsonbHhaIrRzZTUuy0123456789"
  valued := "efmABCdD>=:"
  optional := "*"
  long := [("extended-regexp", 'E'), ("fixed-strings", 'F'), ("basic-regexp", 'G'),
    ("perl-regexp", 'P'), ("ignore-case", 'i'), ("invert-match", 'v'), ("word-regexp", 'w'),
    ("line-regexp", 'x'), ("count", 'c'), ("files-with-matches", 'l'),
    ("files-without-match", 'L'), ("quiet", 'q'), ("silent", 'q'), ("no-messages", 's'),
    ("only-matching", 'o'), ("line-number", 'n'), ("byte-offset", 'b'), ("with-filename", 'H'),
    ("no-filename", 'h'), ("text", 'a'), ("recursive", 'r'), ("dereference-recursive", 'R'),
    ("null-data", 'z'), ("null", 'Z'), ("initial-tab", 'T'), ("regexp", 'e'), ("file", 'f'),
    ("max-count", 'm'), ("before-context", 'B'), ("after-context", 'A'), ("context", 'C'),
    ("directories", 'd'), ("devices", 'D'), ("binary", 'U'), ("no-group-separator", '<'),
    ("group-separator", '>'), ("unix-byte-offsets", 'u'), ("binary-files", '='), ("label", ':'),
    ("color", '*'), ("colour", '*'), ("line-buffered", '.'), ("no-ignore-case", '/')]

/-- What `grep` says of how it is called. -/
def grepUsage (c : Call) : Proc Nat := do
  Proc.complain ("Usage: grep [OPTION]... PATTERNS [FILE]...\nTry '".toList ++ baseName c.name
    ++ " --help' for more information.\n".toList)
  return 2

/-- Says what is wrong, and fails as a search does. -/
def grepFails (c : Call) (message : Chars) : Proc Nat := do
  c.complain message
  return 2

/-- The number of an option, or the word that is none. -/
def contextOf (w : Words) (letter : Char) : Except Chars (Option Nat) :=
  match w.last? letter with
  | none => .ok none
  | some word => if isNumeral word then .ok (some (digitsValue 10 word)) else .error word

/-- The number that the digits among the options stand for. -/
def digitsOption? (w : Words) : Option Nat :=
  let digits := (w.options.map Prod.fst).filter Char.isDigit
  if digits.isEmpty then none else some (digitsValue 10 digits)

/-- A text with one for which `\d` stands in other expressions. -/
def spellDigits : Chars → Chars
  | '\\' :: 'd' :: rest => "[0-9]".toList ++ spellDigits rest
  | c :: rest => c :: spellDigits rest
  | [] => []

/-- The expressions that some texts stand for, and the signs that have nothing to repeat in them; or
all faults of the texts. -/
def readPatterns (kind : PatternKind) (perl : Bool) (texts : List Chars) :
    Except (List RegexFault) (List Regex × List String) :=
  let read (text : Chars) : Except RegexFault Regex.Reading :=
    let chars := decoded (if perl then spellDigits text else text)
    match kind with
    | .fixed => .ok { regex := Regex.ofText chars }
    | kind => Regex.ofPattern (kind == .extended) chars
  let all := texts.map read
  let faults := all.filterMap fun
    | .error f => some f
    | .ok _ => none
  let worse := faults.filter (· != .classSyntax)
  if !worse.isEmpty then .error worse
  else if !faults.isEmpty then .error (faults.take 1)
  else
    let readings := all.filterMap Except.toOption
    .ok (readings.map (·.regex), readings.flatMap (·.idle))

/-- The texts of expressions that options name, or why they cannot be read. -/
def namedPatterns (w : Words) : Proc (Except (Chars × Reason) (List Chars)) :=
  w.options.foldlM (fun found o => do
    match found, o with
    | .ok texts, ('e', text) => return .ok (texts ++ text.splitOn '\n')
    | .ok texts, ('f', word) =>
      match ← readSource word with
      | .ok text => return .ok (texts ++ linesOf text)
      | .error r => return .error (word, r)
    | found, _ => return found) (.ok [])

/-- Searches the files with some names, which are found in directories if `found`. -/
def grepFiles (c : Call) (s : Search) (given : Bool) :
    Nat → List Chars → Bool × Bool × Bool → Proc (Bool × Bool × Bool)
  | 0, _, state => return state
  | depth + 1, words, state =>
    words.foldlM (fun (hit, trouble, begun) word => do
      if hit && s.quiet then return (hit, trouble, begun)
      else
        let name := if word = ['-'] then s.inputName else word
        let isDir ← if word = ['-'] then pure false
          else Proc.see fun files => files.isDir (pathOf word)
        if isDir && s.deep then
          let names ← Proc.see fun files =>
            ((files.node? (pathOf word)).map Node.entries).getD [] |>.map fun e => charsOf e.1
          let path (n : Chars) : Chars := if given then inside word n else n
          grepFiles c s true depth (names.map path) (hit, trouble, begun)
        else if isDir && s.skipDirs then return (hit, trouble, begun)
        else
          let own ← isOwnOutput word
          match ← readSource word with
          | .error r =>
            if !s.silent then c.complain (name ++ ": ".toList ++ reasonPhrase r)
            if r = .errno .isDirectory then Proc.say (s.report name [] begun).shown
            return (hit, true, begun)
          | .ok text =>
            if own && !s.isBrief && !s.count && s.most.all (1 < ·) then
              c.complain (name ++ ": input file is also the output".toList)
              return (hit, true, begun)
            else
              let r := s.report name text begun
              Proc.say r.shown
              if r.hidden then c.complain (name ++ ": binary file matches".toList)
              return (hit || r.found, trouble, begun || r.begun)) state
where
  /-- Whether a file is the one that standard output leads to. -/
  isOwnOutput (word : Chars) : Proc Bool := do
    let source ← if word = ['-'] then
        let at_ ← Proc.ask (.position 0)
        pure (at_.map Prod.fst)
      else Proc.see fun files => match files.landing true (pathOf word) with
        | .ok (.found place (.file _ _)) => some place
        | _ => none
    match source, ← Proc.ask (.position 1) with
    | some place, some (into, _) => return place == into
    | _, _ => return false

/-- `grep`: prints the lines in which an expression occurs. -/
def grep (c : Call) : Proc Nat :=
  match grepOptions.read c.args with
  | .error fault => do
    c.complain fault.text
    grepUsage c
  | .ok w => do
    if w.has 'u' then c.complain "warning: --unix-byte-offsets (-u) is obsolete".toList
    let matchers := ['E', 'F', 'G', 'P'].filter w.has
    let most? : Option (Option Nat) := match w.last? 'm' with
      | none => some none
      | some ('-' :: digits) => if isNumeral digits then some none else none
      | some digits => if isNumeral digits then some (some (digitsValue 10 digits)) else none
    match contextOf w 'A', contextOf w 'B', contextOf w 'C' with
    | .error word, _, _ | _, .error word, _ | _, _, .error word =>
      grepFails c (word ++ ": invalid context length argument".toList)
    | .ok after, .ok before, .ok around =>
      match most? with
      | none => grepFails c "invalid max count".toList
      | some most =>
        let types := ["binary", "text", "without-match"].map String.toList
        if w.options.any fun o => o.1 == '=' && !types.contains o.2 then
          grepFails c "unknown binary-files type".toList
        else if 1 < matchers.length then grepFails c "conflicting matchers specified".toList
        else
          match ← namedPatterns w with
          | .error (word, r) => grepFails c (word ++ ": ".toList ++ reasonPhrase r)
          | .ok named =>
            let isNamed := w.has 'e' || w.has 'f'
            if !isNamed && w.rest.isEmpty then grepUsage c
            else
              let texts := if isNamed then named else (w.rest.headD []).splitOn '\n'
              let files := if isNamed then w.rest else w.rest.tail
              let kind : PatternKind := match matchers with
                | ['F'] => .fixed
                | ['E'] | ['P'] => .extended
                | _ => .basic
              let isIdle := most == some 0 || (texts == [[]] && w.has 'v' &&
                !(w.has 'x' || w.has 'w'))
              if isIdle && w.lastOf? ['l', 'L'] != some 'L' then return 1
              if w.has 'P' && 1 < texts.length then
                return ← grepFails c "the -P option only supports a single pattern".toList
              match readPatterns kind (w.has 'P') texts with
              | .error faults =>
                faults.forM fun f => c.complain f.phrase.toList
                return 2
              | .ok (patterns, idle) =>
                idle.forM fun sign => c.complain
                  ("warning: ".toList ++ sign.toList ++ " at start of expression".toList)
                search w patterns files most (around.or (digitsOption? w)) before after
where
  /-- Searches with the options that were read. -/
  search (w : Words) (patterns : List Regex) (files : List Chars) (most around : Option Nat)
      (before after : Option Nat) : Proc Nat := do
    let deep := w.has 'r' || w.has 'R' || w.last? 'd' == some "recurse".toList
    let sources := if !files.isEmpty then files else if deep then [['.']] else [['-']]
    let inDir ← match sources with
      | [word] => Proc.see fun files => deep && files.isDir (pathOf word)
      | _ => pure false
    let binary := (w.options.filterMap fun (letter, value) =>
      if letter = 'a' ∨ letter = 'I' then some letter
      else if letter = '=' then
        some (if value = "text".toList then 'a' else if value = "binary".toList then 'b' else 'I')
      else none).getLast?
    let s : Search :=
      { patterns
        fold := (w.lastOf? ['i', 'y', '/']).any (· != '/')
        inverted := w.has 'v'
        word := w.has 'w'
        whole := w.has 'x'
        listing := match w.lastOf? ['l', 'L'] with
          | some 'l' => .names
          | some _ => .others
          | none => .lines
        count := w.has 'c'
        quiet := w.has 'q'
        only := w.has 'o'
        numbers := w.has 'n'
        offsets := w.has 'b'
        labels := match w.lastOf? ['H', 'h'] with
          | some letter => letter == 'H'
          | none => 1 < sources.length || inDir
        zeros := w.has 'Z'
        asText := binary == some 'a'
        onlyText := binary == some 'I'
        tabs := w.has 'T'
        eol := if w.has 'z' then '\x00' else '\n'
        inputName := (w.last? ':').getD "(standard input)".toList
        silent := w.has 's'
        deep
        skipDirs := w.last? 'd' == some "skip".toList
        most
        before := (before.or around).getD 0
        after := (after.or around).getD 0
        groupMark := if w.has '<' || ((before.or after).or around).isNone then none
          else some ((w.last? '>').getD ['-', '-']) }
    let (hit, trouble, _) ←
      grepFiles c s (!files.isEmpty) 1000 sources (false, false, false)
    return if hit && s.quiet then 0 else if trouble then 2 else if hit then 0 else 1

end RoundTrip.Machine
