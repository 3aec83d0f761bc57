import RoundTrip.Machine.Print
import RoundTrip.Text.Search

/-!
# What the small programs have in common

How programs read their options, how they put names into quotes, and how they say what is wrong.
Options may stand among the other words; two hyphens end them. A long option may be cut short as
long as it is clear which one is meant.
-/

namespace RoundTrip.Machine

/-! ## Quotes -/

/-- Whether a character is not printed as it is. -/
def isControl (c : Char) : Bool := c < ' ' || c == '\x7f'

/-- The letter of the escape of a control character, if it has one. -/
def controlLetter? : Char → Option Char
  | '\x07' => some 'a'
  | '\x08' => some 'b'
  | '\x0c' => some 'f'
  | '\n' => some 'n'
  | '\r' => some 'r'
  | '\t' => some 't'
  | '\x0b' => some 'v'
  | _ => none

/-- The escape of a character that is not printed as it is. -/
def controlEscape (c : Char) : Chars :=
  match controlLetter? c with
  | some letter => ['\\', letter]
  | none =>
    let digits := Nat.toDigits 8 c.toNat
    '\\' :: List.replicate (3 - digits.length) '0' ++ digits

/-- Whether a character is one that is escaped in a text; bytes beyond ASCII are if the text is not
UTF-8. -/
def isEscaped (text : Chars) : Char → Bool :=
  let isText := (Utf8.decode? (bytesOf text)).isSome
  fun c => isControl c || (!isText && 0x80 ≤ c.toNat)

/-- The rest of a name in single quotes; `special` says that the quotes that are open are those of
escapes. -/
def quoteRest (escaped : Char → Bool) : Bool → Chars → Chars
  | _, [] => ['\'']
  | special, c :: rest =>
    if escaped c then
      (if special then [] else ['\'', '$', '\'']) ++ controlEscape c ++ quoteRest escaped true rest
    else
      let begin_ := if special then ['\'', '\''] else []
      if c = '\'' then begin_ ++ ['\'', '\\', '\'', '\''] ++ quoteRest escaped false rest
      else begin_ ++ c :: quoteRest escaped false rest

/-- A name in quotes, so that a shell reads it as it is. -/
def quoted (name : Chars) : Chars :=
  let escaped := isEscaped name
  let plain := !name.any escaped
  if plain && name.contains '\'' && !name.any fun c => c ∈ ['"', '\\', '$', '\x60', '!'] then
    '"' :: name ++ ['"']
  else '\'' :: quoteRest escaped false name

/-- Whether a shell reads a name as it is without quotes, and no colon is in it. -/
def isPlainName (name : Chars) : Bool :=
  let special := [' ', '!', '"', '$', '&', '(', ')', '*', ';', '<', '=', '>', '[', '^', '\x60',
    '|', '?', '\\', '\'', ':']
  !name.isEmpty && !name.any (fun c => special.contains c) && !name.any (isEscaped name)
    && !(name.head? == some '#' || name.head? == some '~')
    && name != ['\x7b'] && name != ['\x7d']

/-- A name, in quotes if it needs them. -/
def mention (name : Chars) : Chars := if isPlainName name then name else quoted name

/-- A word in curly quotes, with escapes for what is not printed as it is. -/
def cited (word : Chars) : Chars :=
  let escaped := isEscaped word
  curled (word.flatMap fun c =>
    if escaped c then controlEscape c else if c = '\\' then ['\\', '\\'] else [c])

/-! ## Options -/

/-- The options of a program. -/
structure Options where
  /-- The letters of those without a value. -/
  plain : String := ""
  /-- The letters of those with a value. -/
  valued : String := ""
  /-- The letters of those that may have a value when they are long. -/
  optional : String := ""
  /-- The long ones, each with the letter of one that means the same. -/
  long : List (String × Char) := []

/-- What is wrong with an option. -/
inductive OptionFault where
  | unknown (letter : Char)
  | unknownLong (word : Chars)
  | valueless (letter : Char)
  | valuelessLong (name : String)
  | surplus (name : String)
  | ambiguous (word : Chars) (names : List String)

/-- What is said of a fault. -/
def OptionFault.text : OptionFault → Chars
  | .unknown letter => "invalid option -- '".toList ++ [letter, '\'']
  | .unknownLong word => "unrecognized option '--".toList ++ word ++ ['\'']
  | .valueless letter => "option requires an argument -- '".toList ++ [letter, '\'']
  | .valuelessLong name => ("option '--" ++ name ++ "' requires an argument").toList
  | .surplus name => ("option '--" ++ name ++ "' doesn't allow an argument").toList
  | .ambiguous word names =>
    "option '--".toList ++ word ++ "' is ambiguous; possibilities:".toList
      ++ names.flatMap fun n => (" '--" ++ n ++ "'").toList

/-- The words of a call: options with their values, and the other words. -/
structure Words where
  /-- The options and their values, in order. -/
  options : List (Char × Chars) := []
  /-- The other words. -/
  rest : List Chars := []
  deriving Inhabited

namespace Words

/-- Whether an option is given. -/
def has (w : Words) (letter : Char) : Bool := w.options.any fun o => o.1 == letter

/-- The value of an option that is given last. -/
def last? (w : Words) (letter : Char) : Option Chars :=
  (w.options.filter fun o => o.1 == letter).getLast?.map Prod.snd

/-- The option of some that is given last. -/
def lastOf? (w : Words) (letters : List Char) : Option Char :=
  (w.options.filter fun o => letters.contains o.1).getLast?.map Prod.fst

/-- With an option in front. -/
def withOption (letter : Char) (value : Chars) (w : Words) : Words :=
  { w with options := (letter, value) :: w.options }

/-- With another word in front. -/
def withWord (word : Chars) (w : Words) : Words := { w with rest := word :: w.rest }

end Words

namespace Options

/-- The long option that a word stands for. -/
def long? (o : Options) (word : Chars) : Except OptionFault (String × Char) :=
  match o.long.find? fun l => l.1.toList == word with
  | some l => .ok l
  | none =>
    let begun := o.long.filter fun l => word.isPrefixOf l.1.toList
    match begun with
    | [] => .error (.unknownLong word)
    | l :: more =>
      if more.all fun m => m.2 == l.2 then .ok l
      else .error (.ambiguous word (begun.map Prod.fst))

/-- Reads the words of a call. -/
def read (o : Options) : List Chars → Except OptionFault Words
  | [] => .ok {}
  | ['-', '-'] :: rest => .ok { rest }
  | ('-' :: '-' :: word) :: rest => do
    let name := word.takeWhile (· != '=')
    match ← o.long? name with
    | (full, letter) =>
      let given := name.length < word.length
      if o.valued.toList.contains letter then
        if given then
          return (← read o rest).withOption letter (word.drop (name.length + 1))
        else
          match rest with
          | value :: rest => return (← read o rest).withOption letter value
          | [] => .error (.valuelessLong full)
      else if given && !o.optional.contains letter then .error (.surplus full)
      else return (← read o rest).withOption letter (word.drop (name.length + 1))
  | ('-' :: c :: cs) :: rest => letters o rest (c :: cs)
  | word :: rest => return (← read o rest).withWord word
termination_by words => (words.length, 0)
where
  /-- Reads letters behind a hyphen, and the words behind them. -/
  letters (o : Options) (rest : List Chars) : Chars → Except OptionFault Words
    | [] => read o rest
    | c :: cs =>
      if o.valued.toList.contains c then
        if !cs.isEmpty then return (← read o rest).withOption c cs
        else
          match rest with
          | value :: rest => return (← read o rest).withOption c value
          | [] => .error (.valueless c)
      else if o.plain.toList.contains c then return (← letters o rest cs).withOption c []
      else .error (.unknown c)
  termination_by cs => (rest.length, cs.length + 1)

end Options

/-! ## Saying what is wrong -/

/-- What programs say of a reason. -/
def reasonPhrase : Reason → Chars
  | .errno e => e.phrase.toList
  | r => r.text.toList

namespace Call

/-- Says what is wrong. -/
def complain (c : Call) (message : Chars) : Proc Unit :=
  Proc.complain (c.name ++ ": ".toList ++ message ++ ['\n'])

/-- Says where help is to be found. -/
def refer (c : Call) : Proc Unit :=
  Proc.complain ("Try '".toList ++ c.name ++ " --help' for more information.\n".toList)

/-- Says what is wrong with how the program is called, and fails. -/
def misused (c : Call) (status : Nat) (message : Chars) : Proc Nat := do
  c.complain message
  c.refer
  return status

/-- Reads the options and goes on with them; fails with a status if that cannot be done. -/
def withOptions (c : Call) (status : Nat) (o : Options) (go : Words → Proc Nat) : Proc Nat :=
  match o.read c.args with
  | .ok words => go words
  | .error fault => c.misused status fault.text

/-- Says what is wrong, and fails. -/
def fails (c : Call) (message : Chars) : Proc Nat := do
  c.complain message
  return 1

/-- Says what is wrong, for a reason, and fails. -/
def failed (c : Call) (message : Chars) (r : Reason) : Proc Nat :=
  c.fails (message ++ ": ".toList ++ reasonPhrase r)

end Call

/-- Works through words; the status is the greatest of all. -/
def forEach (words : List Chars) (f : Chars → Proc Nat) : Proc Nat :=
  words.foldlM (fun status w => do return max status (← f w)) 0

/-- The last name of a path. -/
def baseName (path : Chars) : Chars :=
  let own := (path.reverse.dropWhile (· == '/')).reverse
  if own.isEmpty then path.take 1 else (own.reverse.takeWhile (· != '/')).reverse

/-- The path of an entry of a directory. -/
def inside (dir name : Chars) : Chars :=
  charsOf ((pathOf dir).join (pathOf name)).bytes

/-- The lines of a text, without their ends. -/
def linesOf (text : Chars) : List Chars :=
  let pieces := text.splitOn '\n'
  if pieces.getLast? == some [] then pieces.dropLast else pieces

/-- The stream that programs open files as. -/
def fileStream : Nat := 3

/-- The content of a file, or of standard input for a hyphen. -/
def readSource (word : Chars) : Proc (Except Reason Chars) := do
  if word = ['-'] then return (← Proc.ask (.read 0 .all)).map charsOf
  else
    match ← Proc.ask (.openFile (pathOf word) .read fileStream) with
    | .error r => return .error r
    | .ok () =>
      let content ← Proc.ask (.read fileStream .all)
      Proc.ask (.close fileStream)
      return content.map charsOf

end RoundTrip.Machine
