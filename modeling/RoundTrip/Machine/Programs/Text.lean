import RoundTrip.Machine.Condition
import RoundTrip.Machine.Programs.Basic

/-!
# Programs that print

The programs that print texts, files, or parts of files, and those that only end.
-/

namespace RoundTrip.Machine

/-! ## Whole files -/

/-- How `cat` shows what it prints. -/
structure Shown where
  /-- Whether lines have numbers. -/
  numbers : Bool
  /-- Whether only lines that hold something have numbers. -/
  filled : Bool
  /-- Whether only the first of several empty lines is printed. -/
  squeeze : Bool
  /-- Whether ends of lines are shown. -/
  ends : Bool
  /-- Whether tabs are shown. -/
  tabs : Bool
  /-- Whether other characters that are not printed as they are are shown. -/
  controls : Bool

namespace Shown

/-- The way of showing that options ask for. -/
def ofWords (w : Words) : Shown where
  numbers := w.has 'n'
  filled := w.has 'b'
  squeeze := w.has 's'
  ends := w.has 'E' || w.has 'e' || w.has 'A'
  tabs := w.has 'T' || w.has 't' || w.has 'A'
  controls := w.has 'v' || w.has 'e' || w.has 't' || w.has 'A'

/-- Whether all is printed as it is. -/
def isPlain (s : Shown) : Bool :=
  !(s.numbers || s.filled || s.squeeze || s.ends || s.tabs || s.controls)

/-- How a character other than the end of a line is shown. -/
def char (s : Shown) (c : Char) : Chars :=
  let ascii (n : Nat) : Chars :=
    if n = 0x7F then ['^', '?']
    else if n < 0x20 then ['^', Char.ofNat (n + 0x40)]
    else [Char.ofNat n]
  if c = '\t' then if s.tabs then ['^', 'I'] else ['\t']
  else if !s.controls then [c]
  else if 0x80 ≤ c.toNat then 'M' :: '-' :: ascii (c.toNat - 0x80)
  else ascii c.toNat

/-- Where `cat` is in what it prints. -/
structure At where
  /-- The number of the last line that has one. -/
  number : Nat := 0
  /-- Whether a line begins. -/
  fresh : Bool := true
  /-- How many empty lines are just behind. -/
  blanks : Nat := 0

/-- How a text is shown, from somewhere on, and where that ends. -/
def text (s : Shown) (a : At) (text : Chars) : Chars × At :=
  let (pieces, a) := text.foldl (fun (pieces, a) c =>
    let label (n : Nat) : Chars :=
      let digits := Nat.toDigits 10 n
      List.replicate (6 - digits.length) ' ' ++ digits ++ ['\t']
    if c = '\n' then
      let blanks := if a.fresh then a.blanks + 1 else 0
      if a.fresh && s.squeeze && 1 < blanks then (pieces, { a with blanks })
      else
        let counted := a.fresh && s.numbers && !s.filled
        let number := if counted then a.number + 1 else a.number
        let front := if counted then label number else []
        let end_ := if s.ends then ['$', '\n'] else ['\n']
        ((front ++ end_) :: pieces, { number, fresh := true, blanks })
    else
      let counted := a.fresh && (s.numbers || s.filled)
      let number := if counted then a.number + 1 else a.number
      let front := if counted then label number else []
      ((front ++ s.char c) :: pieces, { number, fresh := false, blanks := 0 }))
    (([] : List Chars), a)
  (pieces.reverse.flatten, a)

end Shown

/-- The greatest number of pieces that are read of a stream. -/
def readLimit : Nat := 1000000000

/-- Prints what is read of a stream until its end, piece by piece. -/
def passOn (s : Shown) (stream : Nat) : Nat → Shown.At → Proc (Except Reason Shown.At)
  | 0, a => return .ok a
  | fuel + 1, a => do
    match ← Proc.ask (.read stream .some) with
    | .error r => return .error r
    | .ok [] => return .ok a
    | .ok bytes =>
      if s.isPlain then
        let _ ← Proc.ask (.write 1 bytes)
        passOn s stream fuel a
      else
        let (shown, a) := s.text a (charsOf bytes)
        Proc.say shown
        passOn s stream fuel a

/-- Whether a stream reads a file that standard output writes further behind. -/
def readsOwnOutput (stream : Nat) : Proc Bool := do
  match ← Proc.ask (.position stream), ← Proc.ask (.position 1) with
  | some (from_, at_), some (into, behind) => return from_ == into && at_ < behind
  | _, _ => return false

/-- Prints files one after the other. -/
def catFrom (c : Call) (s : Shown) : List Chars → Shown.At → Nat → Proc Nat
  | [], _, status => return status
  | word :: rest, a, status => do
    let stream := if word = ['-'] then 0 else fileStream
    let opened ← if word = ['-'] then pure (.ok ())
      else Proc.ask (.openFile (pathOf word) .read fileStream)
    match opened with
    | .error r =>
      let _ ← c.failed (mention word) r
      catFrom c s rest a 1
    | .ok () =>
      if ← readsOwnOutput stream then
        c.complain (mention word ++ ": input file is output file".toList)
        catFrom c s rest a 1
      else
        match ← passOn s stream readLimit a with
        | .ok a => catFrom c s rest a status
        | .error r =>
          let _ ← c.failed (mention word) r
          catFrom c s rest a 1

/-- The options of `cat`. -/
def catOptions : Options where
  plain := "AbeEnstTuv"
  long := [("show-all", 'A'), ("number-nonblank", 'b'), ("show-ends", 'E'), ("number", 'n'),
    ("squeeze-blank", 's'), ("show-tabs", 'T'), ("show-nonprinting", 'v')]

/-- `cat`: prints files one after the other. -/
def cat (c : Call) : Proc Nat :=
  c.withOptions 1 catOptions fun w => do
    let sources := if w.rest.isEmpty then [['-']] else w.rest
    let status ← catFrom c (.ofWords w) sources {} 0
    if sources.contains ['-'] && isClosed (← Proc.ask (.read 0 .all)) then
      c.failed "closing standard input".toList badStream
    else return status
where
  /-- Whether a stream could not be read since there is none. -/
  isClosed : Except Reason Bytes → Bool
    | .error r => r == badStream
    | .ok _ => false

/-! ## Parts of files -/

/-- How much of a file is printed. -/
inductive Part where
  /-- So many lines or bytes. -/
  | count (n : Nat)
  /-- All but so many. -/
  | allBut (n : Nat)
  /-- All from the one with a number on. -/
  | behind (n : Nat)

namespace Part

/-- The part that a word stands for. -/
def ofText? (first : Bool) (word : Chars) : Option Part :=
  match word with
  | '-' :: digits =>
    if isNumeral digits then
      some (if first then .allBut (digitsValue 10 digits) else .count (digitsValue 10 digits))
    else none
  | '+' :: digits =>
    if isNumeral digits then
      some (if first then .count (digitsValue 10 digits)
        else .behind (digitsValue 10 digits - 1))
    else none
  | digits => if isNumeral digits then some (.count (digitsValue 10 digits)) else none

/-- The part of some items, from the first or up to the last. -/
def take {α : Type} (first : Bool) (p : Part) (items : List α) : List α :=
  match p with
  | .count n => if first then items.take n else items.drop (items.length - n)
  | .allBut n => items.take (items.length - n)
  | .behind n => items.drop n

end Part

/-- The lines of a text, with their ends. -/
def endedLines (text : Chars) : List Chars :=
  let lines := linesOf text
  let isWhole := text.getLast? == some '\n'
  lines.zipIdx.map fun (l, i) => if isWhole || i + 1 < lines.length then l ++ ['\n'] else l

/-- The first lines of a stream, at most so many. -/
def firstLines (stream : Nat) : Nat → Proc Unit
  | 0 => return
  | n + 1 => do
    match ← Proc.ask (.read stream .line) with
    | .ok (b :: bytes) =>
      let _ ← Proc.ask (.write 1 (b :: bytes))
      firstLines stream n
    | _ => return

/-- The words of a call in which a first word such as `-5` stands for a number of lines. -/
def shortCount (args : List Chars) : List Chars :=
  match args with
  | ('-' :: d :: ds) :: rest =>
    if isNumeral (d :: ds) then ['-', 'n'] :: (d :: ds) :: rest else args
  | _ => args

/-- The options of `head` and `tail`. -/
def partOptions : Options where
  plain := "fqsvz"
  valued := "nc"
  long := [("lines", 'n'), ("bytes", 'c'), ("quiet", 'q'), ("silent", 'q'), ("verbose", 'v')]

/-- `head` and `tail`: print the first or the last lines or bytes of files. -/
def printPart (first : Bool) (c : Call) : Proc Nat :=
  let c := { c with args := shortCount c.args }
  c.withOptions 1 partOptions fun w => do
    let bytes := w.lastOf? ['n', 'c'] == some 'c'
    let word := (w.last? (if bytes then 'c' else 'n')).getD ['1', '0']
    match Part.ofText? first word with
    | none =>
      c.fails ("invalid number of ".toList ++ (if bytes then "bytes" else "lines").toList
        ++ ": ".toList ++ cited word)
    | some part =>
      let sources := if w.rest.isEmpty then [['-']] else w.rest
      let titled := (1 < sources.length && !w.has 'q') || w.has 'v'
      let title (begun : Bool) (word : Chars) : Proc Unit :=
        if titled then
          let name := if word = ['-'] then "standard input".toList else word
          Proc.say ((if begun then ['\n'] else []) ++ "==> ".toList ++ name ++ " <==\n".toList)
        else pure ()
      let (status, _) ← sources.foldlM (fun ((status, begun) : Nat × Bool) word => do
        match part, bytes, first, word with
        | .count n, false, true, ['-'] =>
          title begun word
          firstLines 0 n
          return (status, true)
        | _, _, _, _ =>
          match ← readSource word with
          | .ok text =>
            title begun word
            Proc.say (if bytes then part.take first text
              else (part.take first (endedLines text)).flatten)
            return (status, true)
          | .error (.errno .isDirectory) =>
            title begun word
            let status ← c.failed ("error reading ".toList ++ quoted word)
              (.errno .isDirectory)
            return (status, true)
          | .error r =>
            let status ← c.failed ("cannot open ".toList ++ quoted word ++ " for reading".toList) r
            return (status, begun)) (0, false)
      return status

/-! ## Counting -/

/-- How many lines, words, characters and bytes a text has, and how long its longest line is. -/
structure TextSize where
  lines : Nat := 0
  words : Nat := 0
  chars : Nat := 0
  bytes : Nat := 0
  longest : Nat := 0

namespace TextSize

/-- The size of a text. -/
def ofText (text : Chars) : TextSize :=
  let isLead (c : Char) : Bool := c.toNat < 0x80 || 0xC0 ≤ c.toNat
  let apart := text.map fun c => if isSpace c then '\n' else c
  { lines := text.countP (· == '\n')
    words := (apart.splitOn '\n').countP (!·.isEmpty)
    chars := text.countP isLead
    bytes := text.length
    longest := (linesOf text).foldl (fun most l => max most (l.countP isLead)) 0 }

/-- The sizes of two texts together. -/
def add (a b : TextSize) : TextSize where
  lines := a.lines + b.lines
  words := a.words + b.words
  chars := a.chars + b.chars
  bytes := a.bytes + b.bytes
  longest := max a.longest b.longest

/-- The counts that options ask for. -/
def counts (w : Words) (s : TextSize) : List Nat :=
  let asked := ['l', 'w', 'm', 'c', 'L'].filter w.has
  let asked := if asked.isEmpty then ['l', 'w', 'c'] else asked
  asked.map fun
    | 'l' => s.lines
    | 'w' => s.words
    | 'm' => s.chars
    | 'c' => s.bytes
    | _ => s.longest

/-- The line that is printed for a size. -/
def row (w : Words) (width : Nat) (s : TextSize) (name : Option Chars) : Chars :=
  let cells := (s.counts w).map fun n =>
    let digits := Nat.toDigits 10 n
    List.replicate (width - digits.length) ' ' ++ digits
  let label := match name with
    | some name => ' ' :: name
    | none => []
  line cells ++ label ++ ['\n']

end TextSize

/-- The options of `wc`. -/
def wcOptions : Options where
  plain := "clmwL"
  long := [("bytes", 'c'), ("chars", 'm'), ("lines", 'l'), ("words", 'w'),
    ("max-line-length", 'L')]

/-- `wc`: counts lines, words and bytes of files. -/
def wc (c : Call) : Proc Nat :=
  c.withOptions 1 wcOptions fun w => do
    let sources := if w.rest.isEmpty then [['-']] else w.rest
    let single := w.rest.length ≤ 1 && (TextSize.counts w {}).length == 1
    let isFile (word : Chars) : Proc (Bool × Nat) := do
      if word = ['-'] then
        match ← Proc.ask (.position 0) with
        | some (place, _) => Proc.see fun files => match files.root.at? place with
          | some (.file content _) => (true, content.length)
          | _ => (true, 0)
        | none => return (false, 0)
      else Proc.see fun files => match files.node? (pathOf word) with
        | some (.file content _) => (true, content.length)
        | some _ => (false, 0)
        | none => (true, 0)
    let kinds ← sources.mapM isFile
    let total := (kinds.map Prod.snd).foldl (· + ·) 0
    let least := if kinds.all Prod.fst then 1 else 7
    let width := if single then 1 else max least (Nat.toDigits 10 total).length
    let name (word : Chars) : Option Chars := if w.rest.isEmpty then none else some word
    let (status, sum) ← sources.foldlM (fun ((status, sum) : Nat × TextSize) word => do
      match ← readSource word with
      | .ok text =>
        let size := TextSize.ofText text
        Proc.say (size.row w width (name word))
        return (status, sum.add size)
      | .error r =>
        let _ ← c.failed (mention word) r
        if r = .errno .isDirectory then Proc.say (({} : TextSize).row w width (name word))
        return (1, sum)) (0, {})
    if 1 < sources.length then Proc.say (sum.row w width (some "total".toList))
    return status

/-! ## Names -/

/-- A name without an ending, unless it is nothing else. -/
def withoutEnding (ending name : Chars) : Chars :=
  if !ending.isEmpty && name != ending && ending.isSuffixOf name then
    name.take (name.length - ending.length)
  else name

/-- `basename`: prints the last names of paths. -/
def basename (c : Call) : Proc Nat :=
  let options : Options :=
    { plain := "az", valued := "s", long := [("multiple", 'a'), ("suffix", 's'), ("zero", 'z')] }
  c.withOptions 1 options fun w => do
    let sayName (ending word : Chars) : Proc Unit :=
      Proc.say (withoutEnding ending (baseName word) ++ ['\n'])
    if w.has 'a' || w.has 's' then
      match w.rest with
      | [] => c.misused 1 "missing operand".toList
      | words =>
        words.forM (sayName ((w.last? 's').getD []))
        return 0
    else
      match w.rest with
      | [] => c.misused 1 "missing operand".toList
      | [word] =>
        sayName [] word
        return 0
      | [word, ending] =>
        sayName ending word
        return 0
      | _ :: _ :: extra :: _ => c.misused 1 ("extra operand ".toList ++ cited extra)

/-- A path without its last name. -/
def dirName (path : Chars) : Chars :=
  let own := (path.reverse.dropWhile (· == '/')).reverse
  if own.isEmpty then if path.isEmpty then ['.'] else ['/']
  else
    let front := own.reverse.dropWhile (· != '/')
    if front.isEmpty then ['.']
    else
      let front := (front.dropWhile (· == '/')).reverse
      if front.isEmpty then ['/'] else front

/-- `dirname`: prints paths without their last names. -/
def dirname (c : Call) : Proc Nat :=
  c.withOptions 1 { plain := "z", long := [("zero", 'z')] } fun w => do
    if w.rest.isEmpty then c.misused 1 "missing operand".toList
    else
      w.rest.forM fun word => Proc.say (dirName word ++ ['\n'])
      return 0

/-! ## Texts -/

/-- `echo`: prints its arguments. -/
def echo (c : Call) : Proc Nat := do
  Proc.say (programEcho c.args)
  return 0

/-- `printf`: prints its arguments by a format. -/
def printf (c : Call) : Proc Nat := do
  let args := if c.args.head? = some ['-', '-'] then c.args.tail else c.args
  match args with
  | [] => c.misused 1 "missing operand".toList
  | format :: args =>
    let p := printFormat .program format args
    p.faults.reverse.forM fun f => c.complain (f.text .program)
    Proc.say p.output
    let harmless : PrintFault → Bool
      | .excess _ => true
      | _ => false
    return if p.faults.all harmless then 0 else 1

/-- The path of the working directory. -/
def hereText (files : FileTree) : Chars := charsOf files.here.bytes

/-- `pwd`: prints the working directory. -/
def pwd (_ : Call) : Proc Nat := do
  let here ← Proc.see hereText
  Proc.say (here ++ ['\n'])
  return 0

/-! ## Time -/

/-- Longer than anybody waits, in microseconds. -/
def forever : Nat := 1000000000000000

/-- How many microseconds a word of `sleep` asks for. -/
def sleepTime? (word : Chars) : Option Nat :=
  match LeadingFraction.ofText? .double word with
  | none | some ⟨true, _, _, _⟩ | some ⟨_, .undefined, _, _⟩ => none
  | some ⟨false, value, rest, _⟩ =>
    let unit? : Option Nat := match rest with
      | [] | ['s'] => some 1
      | ['m'] => some 60
      | ['h'] => some 3600
      | ['d'] => some 86400
      | _ => none
    unit?.map fun unit => match value with
      | .finite significand power =>
        let (n, d) := Fraction.quotient significand power
        n * unit * 1000000 / d
      | _ => forever

/-- `sleep`: lets time pass. -/
def sleep (c : Call) : Proc Nat :=
  c.withOptions 1 {} fun w => do
    match w.rest with
    | [] => c.misused 1 "missing operand".toList
    | words =>
      match words.mapM sleepTime? with
      | some times =>
        Proc.ask (.pause (times.foldl (· + ·) 0))
        return 0
      | none =>
        let wrong := words.filter fun word => (sleepTime? word).isNone
        wrong.forM fun word => c.complain ("invalid time interval ".toList ++ cited word)
        c.refer
        return 1

/-- `gcc`: a compiler that is never given anything to compile. -/
def gcc (c : Call) : Proc Nat := do
  Proc.complain (baseName c.name
    ++ ": fatal error: no input files\ncompilation terminated.\n".toList)
  return 1

end RoundTrip.Machine
