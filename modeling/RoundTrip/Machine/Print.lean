import RoundTrip.Machine.Numeral

/-!
# Printing texts and numbers

The rules of `echo` and `printf`: escapes, and formats that are used again until no argument is
left. The shell and the programs differ in a few escapes and in what they say of bad arguments
(`Dialect`).
-/

namespace RoundTrip.Machine

/-- A text in the quotes that some programs put around words. -/
def curled (text : Chars) : Chars := charsOfText "‘" ++ text ++ charsOfText "’"

/-- Who prints. -/
inductive Dialect where
  /-- The shell. -/
  | shell
  /-- A program. -/
  | program
  deriving DecidableEq, Inhabited

/-- The kind of floats that numbers are read as. -/
def Dialect.floats : Dialect → FloatKind
  | .shell => .double
  | .program => .extended

/-- What is wrong with an argument or a format. -/
inductive PrintFault where
  /-- A word is no number. -/
  | unexpected (word : Chars)
  /-- A word is a number at its front only. -/
  | partly (word : Chars)
  /-- A number is too great. -/
  | range (word : Chars)
  /-- There is no such directive. -/
  | directive (text : Chars)
  /-- A directive ends too early. -/
  | cut
  /-- There are arguments that the format has no use for. -/
  | excess (word : Chars)

/-- Whether nothing is printed behind a fault. -/
def PrintFault.isFatal : PrintFault → Bool
  | .directive _ | .cut => true
  | _ => false

/-- What is said of a fault. -/
def PrintFault.text : Dialect → PrintFault → Chars
  | .shell, .unexpected w => w ++ ": expected numeric value".toList
  | .shell, .partly w => w ++ ": not completely converted".toList
  | .shell, .range w => w ++ ": Numerical result out of range".toList
  | .shell, .directive d => d ++ ": invalid directive".toList
  | .shell, .cut => "missing format character".toList
  | .program, .unexpected w => curled w ++ ": expected a numeric value".toList
  | .program, .partly w => curled w ++ ": value not completely converted".toList
  | .program, .range w => curled w ++ ": Numerical result out of range".toList
  | .program, .directive d => d ++ ": invalid conversion specification".toList
  | .program, .cut => "%: invalid conversion specification".toList
  | _, .excess w => "warning: ignoring excess arguments, starting with ".toList ++ curled w

/-! ## Escapes -/

/-- The character of an escape of one letter. -/
def letterEscape? : Char → Option Char
  | 'a' => some '\x07'
  | 'b' => some '\x08'
  | 'e' => some '\x1b'
  | 'f' => some '\x0c'
  | 'n' => some '\n'
  | 'r' => some '\r'
  | 't' => some '\t'
  | 'v' => some '\x0b'
  | '\\' => some '\\'
  | _ => none

/-- The character of the escape that follows a backslash, and what follows the escape. -/
def escape? (d : Dialect) : Chars → Option (Char × Chars)
  | [] => none
  | c :: rest =>
    if isOctal c then
      let digits := ((c :: rest).take 3).takeWhile isOctal
      some (Char.ofNat (digitsValue 8 digits % 256), (c :: rest).drop digits.length)
    else if d = .program ∧ c = 'x' then
      let digits := (rest.take 2).takeWhile isHex
      if digits.isEmpty then none
      else some (Char.ofNat (digitsValue 16 digits), rest.drop digits.length)
    else (letterEscape? c).map (·, rest)

/-- A text with its escapes resolved, of at most `fuel` characters, and whether something may be
printed behind it. A zero may stand in front of an octal escape. -/
def unescapeUpTo (d : Dialect) : Nat → Chars → Chars × Bool
  | 0, _ => ([], true)
  | _, [] => ([], true)
  | _ + 1, '\\' :: 'c' :: _ => ([], false)
  | fuel + 1, '\\' :: rest =>
    let from_ := match rest with
      | '0' :: c :: more => if isOctal c then c :: more else rest
      | _ => rest
    match escape? d from_ with
    | some (c, rest) =>
      let (more, on) := unescapeUpTo d fuel rest
      (c :: more, on)
    | none =>
      let (more, on) := unescapeUpTo d fuel rest
      ('\\' :: more, on)
  | fuel + 1, c :: rest =>
    let (more, on) := unescapeUpTo d fuel rest
    (c :: more, on)

/-- A text with its escapes resolved, and whether something may be printed behind it. -/
def unescape (d : Dialect) (text : Chars) : Chars × Bool := unescapeUpTo d (text.length + 1) text

/-- The words of a line. -/
def line (words : List Chars) : Chars := [' '].intercalate words

/-- What the `echo` of a shell prints: it resolves escapes and knows the flag `-n`. -/
def shellEcho (args : List Chars) : Chars :=
  let (flag, words) := match args with
    | ['-', 'n'] :: rest => (true, rest)
    | _ => (false, args)
  let (text, on) := unescape .shell (line words)
  if flag || !on then text else text ++ ['\n']

/-- What the program `echo` prints: it resolves escapes only if it is asked to. -/
def programEcho (args : List Chars) : Chars :=
  let isFlag : Chars → Bool
    | '-' :: c :: cs => (c :: cs).all fun c => c ∈ ['n', 'e', 'E']
    | _ => false
  let flags := (args.takeWhile isFlag).flatten
  let text := line (args.dropWhile isFlag)
  let escapes := (flags.filter fun c => c ∈ ['e', 'E']).getLast? == some 'e'
  let (text, on) := if escapes then unescape .program text else (text, true)
  if flags.contains 'n' || !on then text else text ++ ['\n']

/-! ## Formats -/

/-- How a value is put into a field. -/
structure Layout where
  /-- The flags. -/
  flags : Chars := []
  /-- The width of the field; below 0 for a value on the left side. -/
  width : Int := 0
  /-- The precision. -/
  precision : Option Nat := none
  deriving Inhabited

namespace Layout

/-- A value of a sign and a body in its field; zeros fill the field behind the sign if `zeros`. -/
def fill (l : Layout) (zeros : Bool) (sign body : Chars) : Chars :=
  let count := l.width.natAbs - (sign.length + body.length)
  if l.flags.contains '-' || l.width < 0 then sign ++ body ++ List.replicate count ' '
  else if zeros && l.flags.contains '0' then sign ++ List.replicate count '0' ++ body
  else List.replicate count ' ' ++ sign ++ body

/-- The sign of a number. -/
def sign (l : Layout) (negative : Bool) : Chars :=
  if negative then ['-']
  else if l.flags.contains '+' then ['+']
  else if l.flags.contains ' ' then [' ']
  else []

/-- The digits of a whole number, at least as many as the precision asks for. -/
def digits (l : Layout) (base n : Nat) : Chars :=
  let own := if n = 0 ∧ l.precision = some 0 then [] else Nat.toDigits base n
  List.replicate (l.precision.getD 1 - own.length) '0' ++ own

/-- A whole number below or above 0. -/
def signed (l : Layout) (n : Int) : Chars :=
  l.fill l.precision.isNone (l.sign (n < 0)) (l.digits 10 n.natAbs)

/-- A whole number in the way that a letter stands for. -/
def unsigned (l : Layout) (kind : Char) (n : Nat) : Chars :=
  let marked := l.flags.contains '#'
  let zeros := l.precision.isNone
  match kind with
  | 'o' =>
    let own := l.digits 8 n
    l.fill zeros [] (if marked && own.head? != some '0' then '0' :: own else own)
  | 'x' => l.fill zeros (if marked && n != 0 then ['0', 'x'] else []) (l.digits 16 n)
  | 'X' =>
    l.fill zeros (if marked && n != 0 then ['0', 'X'] else []) ((l.digits 16 n).map Char.toUpper)
  | _ => l.fill zeros [] (l.digits 10 n)

/-- A text, of which the precision says how much of it counts. -/
def text (l : Layout) (text : Chars) : Chars :=
  l.fill false [] (text.take (l.precision.getD text.length))

/-- A float of a kind, in the way that a letter stands for. -/
def fraction (k : FloatKind) (l : Layout) (kind : Char) (negative : Bool) (value : Fraction) :
    Chars :=
  let isFinite := match value with
    | .finite _ _ => true
    | _ => false
  let body := value.written k kind.toLower (l.flags.contains '#') l.precision
  let body := if kind.isUpper then body.map Char.toUpper else body
  let mark := if isFinite && kind.toLower = 'a' then 2 else 0
  l.fill isFinite (l.sign negative ++ body.take mark) (body.drop mark)

end Layout

/-- The state of printing by a format. -/
structure Printing where
  /-- What was printed, piece by piece, the last first. -/
  pieces : List Chars := []
  /-- The arguments that are left. -/
  args : List Chars
  /-- The faults so far, the last first. -/
  faults : List PrintFault := []
  /-- Whether nothing more is printed. -/
  ended : Bool := false

namespace Printing

/-- What was printed. -/
def output (p : Printing) : Chars := p.pieces.reverse.flatten

/-- Prints a text. -/
def put (p : Printing) (text : Chars) : Printing := { p with pieces := text :: p.pieces }

/-- Notes a fault. -/
def fault (p : Printing) (f : PrintFault) : Printing :=
  { p with faults := f :: p.faults, ended := p.ended || f.isFatal }

/-- Notes that a word is no number, or that something follows the number in it. -/
def check (p : Printing) (word : Chars) (found : Bool) (rest : Chars) (tooGreat : Bool) :
    Printing :=
  if !rest.isEmpty then p.fault (if found then .partly word else .unexpected word)
  else if tooGreat then p.fault (.range word)
  else p

/-- The next argument. -/
def next (p : Printing) : Option Chars × Printing := (p.args.head?, { p with args := p.args.tail })

/-- The code of the character behind a quote at the front of a word. -/
def quotedCode? : Chars → Option Nat
  | '"' :: rest | '\'' :: rest => some ((rest.head?.map Char.toNat).getD 0)
  | _ => none

/-- The next argument as an integer. -/
def nextSigned (p : Printing) : Int × Printing :=
  match p.next with
  | (none, p) => (0, p)
  | (some word, p) =>
    match quotedCode? word with
    | some code => (code, p)
    | none =>
      let n := LeadingInt.ofText true word
      (n.toSigned.1, p.check word n.found n.rest n.toSigned.2)

/-- The next argument as an integer that wraps around below 0. -/
def nextUnsigned (p : Printing) : Nat × Printing :=
  match p.next with
  | (none, p) => (0, p)
  | (some word, p) =>
    match quotedCode? word with
    | some code => (code, p)
    | none =>
      let n := LeadingInt.ofText true word
      (n.toUnsigned.1, p.check word n.found n.rest n.toUnsigned.2)

/-- The next argument as a float of a kind. -/
def nextFraction (k : FloatKind) (p : Printing) : Bool × Fraction × Printing :=
  let whole (n : Nat) : Fraction := (Fraction.ofBinary k n 0).1
  match p.next with
  | (none, p) => (false, whole 0, p)
  | (some word, p) =>
    match quotedCode? word with
    | some code => (false, whole code, p)
    | none =>
      match LeadingFraction.ofText? k word with
      | some n => (n.negative, n.value, p.check word true n.rest n.isOut)
      | none => (false, whole 0, p.check word false word false)

/-- A number in a format: digits, or a star that stands for the next argument. -/
def size (p : Printing) (text : Chars) : Int × Chars × Printing :=
  match text with
  | '*' :: rest =>
    let (n, p) := p.nextSigned
    (n, rest, p)
  | _ =>
    let digits := text.takeWhile Char.isDigit
    (digitsValue 10 digits, text.drop digits.length, p)

/-- Prints what a directive stands for, of which `text` is what follows the percent sign; gives
what follows the directive. -/
def directive (d : Dialect) (p : Printing) (text : Chars) : Printing × Chars :=
  let flags := text.takeWhile fun c => c ∈ ['#', '-', '+', ' ', '0']
  let (width, rest, p) := p.size (text.drop flags.length)
  let (precision, rest, p) : Option Nat × Chars × Printing := match rest with
    | '.' :: rest =>
      let (n, rest, p) := p.size rest
      (if n < 0 then none else some n.toNat, rest, p)
    | rest => (none, rest, p)
  let l : Layout := { flags, width, precision }
  let sizes := if d = .program then ['l', 'L', 'h', 'j', 't', 'z'] else []
  match rest.dropWhile sizes.contains with
  | [] => (p.fault .cut, [])
  | kind :: rest =>
    let go (p : Printing) : Printing × Chars := (p, rest)
    if kind = 's' then
      let (word, p) := p.next
      go (p.put (l.text (word.getD [])))
    else if kind = 'b' then
      let (word, p) := p.next
      let (text, on) := unescape d (word.getD [])
      go { p.put (l.text text) with ended := !on }
    else if kind = 'c' then
      let (word, p) := p.next
      go (p.put (l.fill false [] [(word.getD []).headD '\x00']))
    else if kind = 'd' ∨ kind = 'i' then
      let (n, p) := p.nextSigned
      go (p.put (l.signed n))
    else if kind ∈ ['o', 'u', 'x', 'X'] then
      let (n, p) := p.nextUnsigned
      go (p.put (l.unsigned kind n))
    else if kind ∈ ['a', 'A', 'e', 'E', 'f', 'F', 'g', 'G'] then
      let (negative, value, p) := p.nextFraction d.floats
      go (p.put (l.fraction d.floats kind negative value))
    else
      let own := '%' :: text.take (text.length - rest.length)
      go (p.fault (.directive own))

/-- Uses a format once, of at most `fuel` characters. -/
def once (d : Dialect) : Nat → Chars → Printing → Printing
  | 0, _, p => p
  | _, [], p => p
  | fuel + 1, '%' :: '%' :: rest, p => once d fuel rest (p.put ['%'])
  | fuel + 1, '%' :: rest, p =>
    let (p, rest) := directive d p rest
    if p.ended then p else once d fuel rest p
  | fuel + 1, '\\' :: rest, p =>
    if d = .program ∧ rest.head? = some 'c' then { p with ended := true }
    else if d = .program ∧ rest.head? = some '"' then once d fuel (rest.drop 1) (p.put ['"'])
    else
      match escape? d rest with
      | some (c, rest) => once d fuel rest (p.put [c])
      | none => once d fuel rest (p.put ['\\'])
  | fuel + 1, c :: rest, p => once d fuel rest (p.put [c])

/-- Uses a format again while it takes arguments, at most `uses` times. -/
def again (d : Dialect) (format : Chars) : Nat → Printing → Printing
  | 0, p => p
  | uses + 1, p =>
    let q := once d (format.length + 1) format p
    if q.ended || q.args.isEmpty then q
    else if q.args.length = p.args.length then
      match d, q.args with
      | .program, word :: _ => q.fault (.excess word)
      | _, _ => q
    else again d format uses q

end Printing

/-- Prints arguments by a format. -/
def printFormat (d : Dialect) (format : Chars) (args : List Chars) : Printing :=
  Printing.again d format (args.length + 1) { args }

/-- An integer that is written in a text, with blanks around it. -/
def intOf? (text : Chars) : Option Int :=
  let n := LeadingInt.ofText false text
  if n.found && n.rest.all isSpace && !n.toSigned.2 then some n.toSigned.1 else none

end RoundTrip.Machine
