import RoundTrip.Json.Basic

/-!
# Writing a JSON text

A document is written in one of two layouts: on one line without blanks, or indented by two blanks
a level with one item a line. Strings escape the quote, the backslash and the control characters
below the blank, and nothing else.
-/

namespace RoundTrip.Json

/-- How a document is laid out. -/
inductive Layout where
  /-- On one line, without blanks. -/
  | compact
  /-- One item a line, indented by two blanks a level. -/
  | indented
  deriving DecidableEq

namespace Layout

/-- The start of a new line at a level. -/
def line : Layout → Nat → List Char
  | .compact, _ => []
  | .indented, level => '\n' :: List.replicate (2 * level) ' '

/-- What stands between the name and the value of a member. -/
def colon : Layout → List Char
  | .compact => [':']
  | .indented => [':', ' ']

end Layout

/-- A hexadecimal digit, in lower case. -/
def hexDigit (n : Nat) : Char := if n < 10 then Char.ofNat (48 + n) else Char.ofNat (87 + n)

/-- How a character is written inside a string. -/
def escape (c : Char) : List Char :=
  if c = '"' then ['\\', '"']
  else if c = '\\' then ['\\', '\\']
  else if c < ' ' then
    if c = '\x08' then ['\\', 'b']
    else if c = '\t' then ['\\', 't']
    else if c = '\n' then ['\\', 'n']
    else if c = '\x0c' then ['\\', 'f']
    else if c = '\r' then ['\\', 'r']
    else ['\\', 'u', '0', '0', hexDigit (c.toNat / 16), hexDigit (c.toNat % 16)]
  else [c]

/-- A string, with its quotes. -/
def quote (text : List Char) : List Char := '"' :: (text.flatMap escape ++ ['"'])

/-- An integer. -/
def intText : Int → List Char
  | .ofNat n => Nat.toDigits 10 n
  | .negSucc n => '-' :: Nat.toDigits 10 (n + 1)

/-- How the name of a member is written; a name that is no text is written as one that is not
assigned a meaning. -/
def nameText : Option String → List Char
  | some name => quote name.toList
  | none => quote ['\uFFFD']

mutual

/-- The text of a document at a level. -/
def write (layout : Layout) (level : Nat) : Json → List Char
  | .null => ['n', 'u', 'l', 'l']
  | .bool true => ['t', 'r', 'u', 'e']
  | .bool false => ['f', 'a', 'l', 's', 'e']
  | .int n => intText n
  | .number literal => literal
  | .str text => quote text.toList
  | .unpaired => quote ['\uFFFD']
  | .list [] => ['[', ']']
  | .list (item :: items) =>
    '[' :: (layout.line (level + 1) ++ write layout (level + 1) item
      ++ writeItems layout (level + 1) items ++ layout.line level ++ [']'])
  | .object [] => ['\x7b', '\x7d']
  | .object ((name, value) :: members) =>
    '\x7b' :: (layout.line (level + 1) ++ nameText name ++ layout.colon
      ++ write layout (level + 1) value ++ writeMembers layout (level + 1) members
      ++ layout.line level ++ ['\x7d'])

/-- The items of an array behind its first. -/
def writeItems (layout : Layout) (level : Nat) : List Json → List Char
  | [] => []
  | item :: items =>
    ',' :: (layout.line level ++ write layout level item ++ writeItems layout level items)

/-- The members of an object behind its first. -/
def writeMembers (layout : Layout) (level : Nat) : List (Option String × Json) → List Char
  | [] => []
  | (name, value) :: members =>
    ',' :: (layout.line level ++ nameText name ++ layout.colon ++ write layout level value
      ++ writeMembers layout level members)

end

/-- The text of a document. -/
def toText (layout : Layout) (j : Json) : String := String.ofList (write layout 0 j)

/-- The text of a document on one line. -/
def compact (j : Json) : String := j.toText .compact

/-- The indented text of a document. -/
def pretty (j : Json) : String := j.toText .indented

end RoundTrip.Json
