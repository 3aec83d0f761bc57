import RoundTrip.Json.Basic

/-!
# The tokens of a JSON text

A scanner that reads one character at a time. Its state says what the characters so far have
begun, so that a text is read by one pass over it. A control character inside a string, a leading
zero and an unknown escape end the scan; half of a surrogate pair does not, it makes the string
`unpaired`.
-/

namespace RoundTrip.Json

/-- A token. -/
inductive Token where
  | listStart | listEnd | objectStart | objectEnd | comma | colon
  /-- A document that is neither an array nor an object. -/
  | leaf (value : Json)
  deriving Inhabited

/-- A string that is being read. -/
structure Partial where
  /-- The characters so far, the last one first. -/
  chars : List Char
  /-- The upper half of a surrogate pair, if the string so far ends in one. -/
  upper : Option Nat
  /-- Whether half of a pair stands alone in the string. -/
  lone : Bool

/-- The string that has not begun. -/
def Partial.empty : Partial := ⟨[], none, false⟩

/-- Appends a character; an upper half before it stands alone. -/
def Partial.push (p : Partial) (c : Char) : Partial :=
  ⟨c :: p.chars, none, p.lone || p.upper.isSome⟩

/-- Appends the UTF-16 unit of an escape, and joins it with an upper half before it. -/
def Partial.pushUnit (p : Partial) (unit : Nat) : Partial :=
  if 0xD800 ≤ unit ∧ unit < 0xDC00 then
    { p with upper := some unit, lone := p.lone || p.upper.isSome }
  else if 0xDC00 ≤ unit ∧ unit < 0xE000 then
    match p.upper with
    | some u =>
      ⟨Char.ofNat (0x10000 + (u - 0xD800) * 0x400 + (unit - 0xDC00)) :: p.chars, none, p.lone⟩
    | none => { p with lone := true }
  else p.push (Char.ofNat unit)

/-- The document of a string that has ended. -/
def Partial.value (p : Partial) : Json :=
  if p.lone || p.upper.isSome then .unpaired else .str (String.ofList p.chars.reverse)

/-- How far a number has been read. -/
inductive NumberPart where
  /-- The sign alone. -/
  | sign
  /-- The integer part, which is zero. -/
  | zero
  /-- The integer part. -/
  | whole
  /-- The point alone. -/
  | point
  /-- The digits behind the point. -/
  | fraction
  /-- The mark of the exponent alone. -/
  | mark
  /-- The sign of the exponent. -/
  | exponentSign
  /-- The digits of the exponent. -/
  | exponent
  deriving DecidableEq

/-- The part of a number that a character goes on with. -/
def NumberPart.next : NumberPart → Char → Option NumberPart
  | .sign, '0' => some .zero
  | .sign, c => if c.isDigit then some .whole else none
  | .zero, '.' | .whole, '.' => some .point
  | .zero, 'e' | .zero, 'E' | .whole, 'e' | .whole, 'E' => some .mark
  | .fraction, 'e' | .fraction, 'E' => some .mark
  | .whole, c => if c.isDigit then some .whole else none
  | .point, c | .fraction, c => if c.isDigit then some .fraction else none
  | .mark, '+' | .mark, '-' => some .exponentSign
  | .mark, c | .exponentSign, c | .exponent, c => if c.isDigit then some .exponent else none
  | .zero, _ => none

/-- Whether a number may end in this part. -/
def NumberPart.complete : NumberPart → Bool
  | .zero | .whole | .fraction | .exponent => true
  | _ => false

/-- The document of a number: an integer if it has neither point nor exponent and is not `-0`. -/
def numberValue (part : NumberPart) (literal : List Char) : Json :=
  match part, literal with
  | .zero, ['0'] => .int 0
  | .whole, '-' :: digits => .int (-(Nat.ofDigitChars 10 digits 0 : Int))
  | .whole, digits => .int (Nat.ofDigitChars 10 digits 0)
  | _, _ => .number literal

/-- What the characters so far have begun. -/
inductive Scan where
  /-- Nothing. -/
  | between
  /-- A word, of which some letters are still to come. -/
  | word (rest : List Char) (value : Json)
  /-- A number, with its characters so far, the last one first. -/
  | number (part : NumberPart) (chars : List Char)
  /-- A string. -/
  | string (read : Partial)
  /-- A string, behind a backslash. -/
  | escape (read : Partial)
  /-- A string, in the hexadecimal digits of an escape, of which some are still to come. -/
  | hex (read : Partial) (more : Nat) (unit : Nat)

namespace Scan

/-- The value of a hexadecimal digit. -/
def hexDigit? (c : Char) : Option Nat :=
  if '0' ≤ c ∧ c ≤ '9' then some (c.toNat - '0'.toNat)
  else if 'a' ≤ c ∧ c ≤ 'f' then some (c.toNat - 'a'.toNat + 10)
  else if 'A' ≤ c ∧ c ≤ 'F' then some (c.toNat - 'A'.toNat + 10)
  else none

/-- The character of a one-letter escape. -/
def escaped? : Char → Option Char
  | '"' => some '"'
  | '\\' => some '\\'
  | '/' => some '/'
  | 'b' => some '\x08'
  | 'f' => some '\x0c'
  | 'n' => some '\n'
  | 'r' => some '\r'
  | 't' => some '\t'
  | _ => none

/-- The effect of a character between two tokens. -/
def start : Char → Option (List Token × Scan)
  | ' ' | '\n' | '\t' | '\r' => some ([], .between)
  | '[' => some ([.listStart], .between)
  | ']' => some ([.listEnd], .between)
  | '\x7b' => some ([.objectStart], .between)
  | '\x7d' => some ([.objectEnd], .between)
  | ',' => some ([.comma], .between)
  | ':' => some ([.colon], .between)
  | '"' => some ([], .string .empty)
  | 'n' => some ([], .word ['u', 'l', 'l'] .null)
  | 't' => some ([], .word ['r', 'u', 'e'] (.bool true))
  | 'f' => some ([], .word ['a', 'l', 's', 'e'] (.bool false))
  | '-' => some ([], .number .sign ['-'])
  | '0' => some ([], .number .zero ['0'])
  | c => if c.isDigit then some ([], .number .whole [c]) else none

/-- The effect of a character: the tokens that it completes and the state behind it. -/
def next : Scan → Char → Option (List Token × Scan)
  | .between, c => start c
  | .word [] _, _ => none
  | .word [l] value, c => if c = l then some ([.leaf value], .between) else none
  | .word (l :: rest) value, c => if c = l then some ([], .word rest value) else none
  | .number part chars, c =>
    match part.next c with
    | some part' => some ([], .number part' (c :: chars))
    | none =>
      if part.complete && !c.isDigit then
        (start c).map fun (tokens, s) => (.leaf (numberValue part chars.reverse) :: tokens, s)
      else none
  | .string read, c =>
    if c = '"' then some ([.leaf read.value], .between)
    else if c = '\\' then some ([], .escape read)
    else if c < ' ' then none
    else some ([], .string (read.push c))
  | .escape read, c =>
    if c = 'u' then some ([], .hex read 4 0)
    else (escaped? c).map fun e => ([], .string (read.push e))
  | .hex read more unit, c => do
    let digit ← hexDigit? c
    let unit := unit * 16 + digit
    if more ≤ 1 then some ([], .string (read.pushUnit unit))
    else some ([], .hex read (more - 1) unit)

/-- The tokens that the end of the text completes. -/
def finish : Scan → Option (List Token)
  | .between => some []
  | .number part chars =>
    if part.complete then some [.leaf (numberValue part chars.reverse)] else none
  | _ => none

end Scan

/-- A text that is being read: the tokens that are complete, the last one first, and the state of
the scan. -/
structure Reading where
  /-- The complete tokens, the last one first. -/
  tokens : List Token
  /-- What the characters behind them have begun. -/
  scan : Scan

/-- The effect of a character on a text that is being read. -/
def Reading.next (r : Reading) (c : Char) : Option Reading :=
  (r.scan.next c).map fun (tokens, scan) => ⟨tokens.reverseAux r.tokens, scan⟩

/-- Reads the characters of a text on from a state. -/
def Reading.run (r : Reading) (text : List Char) : Option Reading := text.foldlM next r

/-- The tokens of a text. -/
def tokens? (text : List Char) : Option (List Token) := do
  let r ← Reading.run ⟨[], .between⟩ text
  let last ← r.scan.finish
  some (r.tokens.reverseAux last)

end RoundTrip.Json
