import RoundTrip.Machine.Task

/-!
# Numbers in texts

How programs read the numbers that their arguments begin with, and how they write numbers that have
a fraction. An integer is hexadecimal behind `0x`, octal behind `0`, and else decimal. A number with
a fraction is read as the nearest float of a kind (`Fraction.nearest`), whose exact value is then
written with a number of places; a tie goes to the even neighbour.
-/

namespace RoundTrip.Machine

/-- Whether a character is white space. -/
def isSpace (c : Char) : Bool := c == ' ' || ('\t' ≤ c && c ≤ '\r')

/-- Whether a character is an octal digit. -/
def isOctal (c : Char) : Bool := '0' ≤ c && c ≤ '7'

/-- Whether a character is a hexadecimal digit. -/
def isHex (c : Char) : Bool := c.isDigit || ('a' ≤ c.toLower && c.toLower ≤ 'f')

/-- The value of a hexadecimal digit. -/
def hexValue (c : Char) : Nat :=
  if c.isDigit then c.toNat - '0'.toNat else 10 + (c.toLower.toNat - 'a'.toNat)

/-- The value of some digits of a base. -/
def digitsValue (base : Nat) (digits : Chars) : Nat :=
  digits.foldl (fun n c => n * base + hexValue c) 0

/-- Whether a text is a decimal number. -/
def isNumeral (text : Chars) : Bool := !text.isEmpty && text.all Char.isDigit

/-- A sign and what follows it. -/
def splitSign : Chars → Bool × Chars
  | '-' :: rest => (true, rest)
  | '+' :: rest => (false, rest)
  | rest => (false, rest)

/-- An integer at the front of a text. -/
structure LeadingInt where
  /-- Whether there is one. -/
  found : Bool
  /-- Whether it is below 0. -/
  negative : Bool
  /-- Its absolute value. -/
  size : Nat
  /-- What follows it. -/
  rest : Chars
  deriving Inhabited

namespace LeadingInt

/-- Reads the integer at the front of a text; `based` says that it may be hexadecimal or octal. -/
def ofText (based : Bool) (text : Chars) : LeadingInt :=
  let (negative, unsigned) := splitSign (text.dropWhile isSpace)
  let digits (base : Nat) (isDigit : Char → Bool) (from_ : Chars) : LeadingInt :=
    let own := from_.takeWhile isDigit
    if own.isEmpty then ⟨false, negative, 0, text⟩
    else ⟨true, negative, digitsValue base own, from_.drop own.length⟩
  match based, unsigned with
  | true, '0' :: x :: d :: rest =>
    if (x == 'x' || x == 'X') && isHex d then digits 16 isHex (d :: rest)
    else digits 8 isOctal unsigned
  | true, '0' :: _ => digits 8 isOctal unsigned
  | _, _ => digits 10 Char.isDigit unsigned

/-- The greatest signed integer of 64 bits. -/
def greatest : Nat := 9223372036854775807

/-- The nearest signed integer of 64 bits, and whether it is another number. -/
def toSigned (n : LeadingInt) : Int × Bool :=
  if n.negative then
    if greatest + 1 < n.size then (-(greatest + 1 : Int), true) else (-(n.size : Int), false)
  else if greatest < n.size then (greatest, true)
  else (n.size, false)

/-- The unsigned integer of 64 bits, where numbers below 0 wrap around, and whether the number is
too great. -/
def toUnsigned (n : LeadingInt) : Nat × Bool :=
  if UInt64.size ≤ n.size then (UInt64.size - 1, true)
  else if n.negative then ((UInt64.size - n.size) % UInt64.size, false)
  else (n.size, false)

end LeadingInt

/-- The value of a number that may have a fraction, but for its sign. -/
inductive Fraction where
  /-- A significand times a power of two. -/
  | finite (significand : Nat) (power : Int)
  /-- More than all numbers. -/
  | infinite
  /-- No number. -/
  | undefined
  deriving Inhabited

/-- A kind of floats. -/
structure FloatKind where
  /-- How many bits a significand has. -/
  bits : Nat
  /-- The least power of two that a significand is multiplied by. -/
  least : Int
  /-- The power of two that all floats are below. -/
  limit : Int

namespace FloatKind

/-- The floats of 64 bits. -/
def double : FloatKind := ⟨53, -1074, 1024⟩

/-- The floats of 80 bits. -/
def extended : FloatKind := ⟨64, -16445, 16384⟩

end FloatKind

/-- A number with a fraction at the front of a text. -/
structure LeadingFraction where
  /-- Whether it is below 0. -/
  negative : Bool
  /-- Its absolute value. -/
  value : Fraction
  /-- What follows it. -/
  rest : Chars
  /-- Whether no float is near it. -/
  isOut : Bool := false
  deriving Inhabited

namespace Fraction

/-- A quotient rounded to an integer; a tie goes to the even neighbour. -/
def roundDiv (n d : Nat) : Nat :=
  let q := n / d
  let r := n % d
  if d < 2 * r ∨ (d = 2 * r ∧ q % 2 = 1) then q + 1 else q

/-- Two to a power, as a quotient. -/
def powerOfTwo (power : Int) : Nat × Nat :=
  if 0 ≤ power then (Nat.pow 2 power.toNat, 1) else (1, Nat.pow 2 power.natAbs)

/-- A quotient of two numbers that has the value. -/
def quotient (significand : Nat) (power : Int) : Nat × Nat :=
  (significand * (powerOfTwo power).1, (powerOfTwo power).2)

/-- The float that is nearest to a quotient, and whether it is not near: it is too great, or it is
another one below those that have all bits of a significand. -/
def nearest (k : FloatKind) (n d : Nat) : Fraction × Bool :=
  if n = 0 ∨ d = 0 then (.finite 0 k.least, false)
  else
    let guess : Int := (n.log2 : Int) - d.log2 - k.bits
    let (top, unit) := powerOfTwo (guess + k.bits)
    let power := max (if d * top ≤ n * unit then guess + 1 else guess) k.least
    let (top, unit) := powerOfTwo power
    let significand := roundDiv (n * unit) (d * top)
    if k.limit ≤ significand.log2 + power then (.infinite, true)
    else (.finite significand power, significand.log2 + 1 < k.bits && n * unit % (d * top) != 0)

/-- The float of a significand and a power of ten. -/
def ofScientific (k : FloatKind) (significand : Nat) (power : Int) : Fraction × Bool :=
  if 0 ≤ power then nearest k (significand * Nat.pow 10 power.toNat) 1
  else nearest k significand (Nat.pow 10 power.natAbs)

/-- The float of a significand and a power of two. -/
def ofBinary (k : FloatKind) (significand : Nat) (power : Int) : Fraction × Bool :=
  nearest k (significand * (powerOfTwo power).1) (powerOfTwo power).2

end Fraction

namespace LeadingFraction

/-- The greatest exponent that counts. -/
def exponentLimit : Int := 100000

/-- Reads an exponent behind one of two letters, and what follows it. -/
def exponent (letters : List Char) (text : Chars) : Int × Chars :=
  match text with
  | e :: exponent =>
    let (below, digits) := splitSign exponent
    let own := digits.takeWhile Char.isDigit
    if letters.contains e && !own.isEmpty then
      let n : Int := min (digitsValue 10 own) exponentLimit
      (if below then -n else n, digits.drop own.length)
    else (0, text)
  | [] => (0, [])

/-- Reads the digits of a number, those behind its point, and what follows them. -/
def digits (isDigit : Char → Bool) (text : Chars) : Chars × Chars × Chars :=
  let whole := text.takeWhile isDigit
  match text.drop whole.length with
  | '.' :: rest =>
    let fraction := rest.takeWhile isDigit
    if whole.isEmpty && fraction.isEmpty then ([], [], text)
    else (whole, fraction, rest.drop fraction.length)
  | rest => (whole, [], rest)

/-- What follows the label in parentheses of what is no number, if there is one. -/
def behindLabel (text : Chars) : Chars :=
  match text with
  | '(' :: inner =>
    match inner.dropWhile fun c => c.isAlphanum || c == '_' with
    | ')' :: rest => rest
    | _ => text
  | _ => text

/-- Reads the number at the front of a text, or nothing if there is none. It is hexadecimal behind
`0x`. -/
def ofText? (k : FloatKind) (text : Chars) : Option LeadingFraction :=
  let (negative, unsigned) := splitSign (text.dropWhile isSpace)
  let named (name : String) : Bool :=
    (unsigned.take name.length).map Char.toLower == name.toList
  if named "infinity" then some { negative, value := .infinite, rest := unsigned.drop 8 }
  else if named "inf" then some { negative, value := .infinite, rest := unsigned.drop 3 }
  else if named "nan" then
    some { negative, value := .undefined, rest := behindLabel (unsigned.drop 3) }
  else
    let (whole, fraction, rest) := if named "0x" then digits isHex (unsigned.drop 2) else ([], [], [])
    if !(whole.isEmpty && fraction.isEmpty) then
      let (power, rest) := exponent ['p', 'P'] rest
      let (value, isOut) := Fraction.ofBinary k (digitsValue 16 (whole ++ fraction))
        (power - 4 * fraction.length)
      some { negative, value, rest, isOut }
    else
      let (whole, fraction, rest) := digits Char.isDigit unsigned
      if whole.isEmpty && fraction.isEmpty then none
      else
        let (power, rest) := exponent ['e', 'E'] rest
        let (value, isOut) := Fraction.ofScientific k (digitsValue 10 (whole ++ fraction))
          (power - fraction.length)
        some { negative, value, rest, isOut }

end LeadingFraction

namespace Fraction

/-- A quotient times a power of ten, rounded to an integer. -/
def scaled (n d : Nat) (power : Int) : Nat :=
  if 0 ≤ power then roundDiv (n * Nat.pow 10 power.toNat) d
  else roundDiv n (d * Nat.pow 10 power.natAbs)

/-- A number with so many zeros in front that it has a number of digits. -/
def padded (width n : Nat) : Chars :=
  let digits := Nat.toDigits 10 n
  List.replicate (width - digits.length) '0' ++ digits

/-- Digits with a point in front of the last `places` of them; without places there is only a point
if `point` asks for one. -/
def pointed (point : Bool) (places : Nat) (digits : Chars) : Chars :=
  let whole := digits.length - places
  digits.take whole ++ (if 0 < places || point then ['.'] else []) ++ digits.drop whole

/-- A quotient with a number of places behind the point. -/
def fixed (point : Bool) (n d places : Nat) : Chars :=
  pointed point places (padded (places + 1) (scaled n d places))

/-- The power of ten of the first digit of a quotient that is written with so many places behind
its first digit, and those digits. -/
def leadingDigits (n d places : Nat) : Int × Chars :=
  if n = 0 then (0, List.replicate (places + 1) '0')
  else
    let size (k : Nat) : Int := (Nat.toDigits 10 k).length
    let guess : Int := size n - size d
    let isBelow := if 0 ≤ guess then n < d * Nat.pow 10 guess.toNat
      else n * Nat.pow 10 guess.natAbs < d
    let power := if isBelow then guess - 1 else guess
    let digits := Nat.toDigits 10 (scaled n d (places - power))
    if places + 1 < digits.length then (power + 1, digits.dropLast) else (power, digits)

/-- A power of ten as it is written behind a number. -/
def exponent (power : Int) : Chars :=
  (if power < 0 then 'e' :: ['-'] else 'e' :: ['+']) ++ padded 2 power.natAbs

/-- A quotient with one digit in front of the point and a number of places behind it, and a power
of ten. -/
def scientific (point : Bool) (n d places : Nat) : Chars :=
  let (power, digits) := leadingDigits n d places
  pointed point places digits ++ exponent power

/-- A quotient with a number of digits, in the shorter of both ways; zeros at the end of the places
are left out unless `point` asks for them. -/
def general (point : Bool) (n d digits : Nat) : Chars :=
  let digits := max digits 1
  let (power, own) := leadingDigits n d (digits - 1)
  let trim (text : Chars) : Chars :=
    if point || !text.contains '.' then text
    else (text.reverse.dropWhile (· == '0') |>.dropWhile (· == '.')).reverse
  if power < -4 ∨ digits ≤ power then trim (pointed point (digits - 1) own) ++ exponent power
  else trim (fixed point n d (digits - 1 - power).toNat)

/-- A significand times a power of two in hexadecimal, with one digit in front of the point and a
number of places behind it, or as many as there are; and a power of two. -/
def hexadecimal (k : FloatKind) (point : Bool) (places : Option Nat) (significand : Nat)
    (power : Int) : Chars :=
  let all := (k.bits - 1) / 4
  let unit (digits : Nat) : Nat := Nat.pow 16 digits
  let kept := min (places.getD all) all
  let rounded := roundDiv significand (unit (all - kept))
  let digits := Nat.toDigits 16 (rounded % unit kept)
  let behind := if kept = 0 then []
    else List.replicate (kept - digits.length) '0' ++ digits
  let behind := match places with
    | some n => behind ++ List.replicate (n - kept) '0'
    | none => (behind.reverse.dropWhile (· == '0')).reverse
  let exponent : Int := if significand = 0 then 0 else power + 4 * all
  '0' :: 'x' :: Nat.toDigits 16 (rounded / unit kept)
    ++ (if !behind.isEmpty || point then ['.'] else []) ++ behind
    ++ (if exponent < 0 then ['p', '-'] else ['p', '+']) ++ Nat.toDigits 10 exponent.natAbs

/-- A number of a kind of floats in the way that a letter stands for. -/
def written (k : FloatKind) (kind : Char) (point : Bool) (places : Option Nat) : Fraction → Chars
  | .infinite => ['i', 'n', 'f']
  | .undefined => ['n', 'a', 'n']
  | .finite significand power =>
    let (n, d) := quotient significand power
    match kind with
    | 'a' => hexadecimal k point places significand power
    | 'f' => fixed point n d (places.getD 6)
    | 'e' => scientific point n d (places.getD 6)
    | _ => general point n d (places.getD 6)

end Fraction

end RoundTrip.Machine
