import RoundTrip.Text.Blank
import RoundTrip.Timestamp

/-!
# Reading points in time

Each step reads one field from the front of a text and returns the rest. Blanks may stand in front
of every number and of every separator but that between date and time; the year has up to four
digits, or a sign and any number of them; the other fields have one or two digits. Behind the
fraction stands the zone: `Z`, `UTC`, or a sign, the hours and the minutes.
-/

namespace RoundTrip.Timestamp

/-- A text without the blanks in front of it. -/
def skipBlanks (text : List Char) : List Char := text.dropWhile isBlank

/-- A number of at least one digit and at most `width` of them. -/
def number? (width : Nat) (text : List Char) : Option (Nat × List Char) :=
  let digits := (text.take width).takeWhile Char.isDigit
  if digits.isEmpty then none else some (Nat.ofDigitChars 10 digits 0, text.drop digits.length)

/-- A number of any length. -/
def longNumber? (text : List Char) : Option (Nat × List Char) := number? text.length text

/-- A year, with the blanks in front of it. -/
def year? (text : List Char) : Option (Int × List Char) :=
  match skipBlanks text with
  | '-' :: rest => (longNumber? rest).map fun (n, rest) => (-(n : Int), rest)
  | '+' :: rest => (longNumber? rest).map fun (n, rest) => ((n : Int), rest)
  | rest => (number? 4 rest).map fun (n, rest) => ((n : Int), rest)

/-- A field of one or two digits, with the blanks in front of it. -/
def field? (text : List Char) : Option (Nat × List Char) := number? 2 (skipBlanks text)

/-- A separator, with the blanks in front of it. -/
def separator? (c : Char) (text : List Char) : Option (List Char) :=
  match skipBlanks text with
  | d :: rest => if c = d then some rest else none
  | [] => none

/-- The mark between date and time. -/
def mark? : List Char → Option (List Char)
  | 't' :: rest | 'T' :: rest | ' ' :: rest => some rest
  | _ => none

/-- The nanoseconds of a fraction, of which digits behind the ninth are dropped; no fraction is
0. -/
def fraction? : List Char → Option (Nat × List Char)
  | '.' :: rest => do
    let digits := (rest.take 9).takeWhile Char.isDigit
    if digits.isEmpty then none
    else some (Nat.ofDigitChars 10 digits 0 * Nat.pow 10 (9 - digits.length),
      (rest.drop digits.length).dropWhile Char.isDigit)
  | rest => some (0, rest)

/-- The sign of a zone: whether it lies behind UTC. -/
def zoneSign? : List Char → Option (Bool × List Char)
  | '+' :: rest => some (false, rest)
  | '-' :: rest | '\u2212' :: rest => some (true, rest)
  | _ => none

/-- Two digits. -/
def twoDigits? : List Char → Option (Nat × List Char)
  | a :: b :: rest =>
    if a.isDigit && b.isDigit then some (Nat.ofDigitChars 10 [a, b] 0, rest) else none
  | _ => none

/-- The minutes by which a zone is ahead of UTC. -/
def zone? (text : List Char) : Option (Int × List Char) :=
  match text with
  | 'Z' :: rest | 'z' :: rest => some (0, rest)
  | a :: b :: c :: rest =>
    if a.toUpper = 'U' ∧ b.toUpper = 'T' ∧ c.toUpper = 'C' then some (0, rest) else offset?
  | _ => offset?
where
  /-- A sign, hours and minutes. -/
  offset? : Option (Int × List Char) := do
    let (behind, rest) ← zoneSign? text
    let (hours, rest) ← twoDigits? rest
    let (minutes, rest) ← twoDigits? (rest.dropWhile fun c => c == ':' || isBlank c)
    if minutes < 60 ∧ hours < 24 then
      let ahead : Int := hours * 60 + minutes
      some (if behind then -ahead else ahead, rest)
    else none

/-- The point in time that a text shows. -/
def ofChars? (text : List Char) : Option Timestamp := do
  let (year, text) ← year? text
  let (month, text) ← field? (← separator? '-' text)
  let (day, text) ← field? (← separator? '-' text)
  let (hour, text) ← field? (← mark? text)
  let (minute, text) ← field? (← separator? ':' text)
  let (second, text) ← field? (← separator? ':' text)
  let (nanos, text) ← fraction? text
  let (ahead, text) ← zone? (skipBlanks text)
  if skipBlanks text ≠ [] then none
  else
    let t : Timestamp := ⟨year, month, day, hour, minute, second, nanos⟩
    if t.IsValid ∧ (t.earlier ahead).IsValid then some (t.earlier ahead) else none

/-- The point in time that a text shows. -/
def ofText? (text : String) : Option Timestamp := ofChars? text.toList

end RoundTrip.Timestamp
