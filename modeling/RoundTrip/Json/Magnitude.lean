import RoundTrip.Json.Basic

/-!
# How great a number is

A number that is read whatever it is becomes a 64-bit float: its first digits make a significand
below 2^64, and the rest of it makes a power of ten. Both are rounded to the 53 bits of a float
before they are multiplied, so whether a number is finite depends on how it is written
(`isFinite`): of two spellings of one number, one may be finite and the other not.
-/

namespace RoundTrip.Json

/-- A significand below 2^64 and a power of ten. -/
structure Scaled where
  /-- The significand. -/
  significand : Nat := 0
  /-- The power of ten. -/
  power : Int := 0
  deriving DecidableEq, Inhabited

namespace Scaled

/-- The significand with a digit behind it, if that is below 2^64. -/
def appended? (n : Scaled) (digit : Char) : Option Nat :=
  let next := n.significand * 10 + (digit.toNat - '0'.toNat)
  if next < UInt64.size then some next else none

/-- Reads the digits before the point on; those that the significand has no room for raise the
power. -/
def readWhole : Scaled → List Char → Scaled
  | n, [] => n
  | n, digit :: rest =>
    match n.appended? digit with
    | some next => readWhole { n with significand := next } rest
    | none => { n with power := n.power + (rest.length + 1) }

/-- Reads the digits behind the point on; those that the significand has no room for, and all
behind them, do not count. -/
def readFraction : Scaled → List Char → Scaled
  | n, [] => n
  | n, digit :: rest =>
    match n.appended? digit with
    | some next => readFraction ⟨next, n.power - 1⟩ rest
    | none => n

/-- The exponent in the last part of a literal. -/
def exponent (literal : List Char) : Int :=
  let part := literal.dropWhile fun c => c != 'e' && c != 'E'
  let size : Int := Nat.ofDigitChars 10 (part.filter Char.isDigit) 0
  if part.contains '-' then -size else size

/-- The parts of a literal. -/
def ofLiteral (literal : List Char) : Scaled :=
  let unsigned := literal.dropWhile (· == '-')
  let whole := unsigned.takeWhile Char.isDigit
  let fraction := match unsigned.drop whole.length with
    | '.' :: rest => rest.takeWhile Char.isDigit
    | _ => []
  let n := (readWhole {} whole).readFraction fraction
  { n with power := n.power + exponent literal }

end Scaled

/-- A number rounded to 53 bits; a tie goes to the even neighbour. -/
def roundToFloat (n : Nat) : Nat :=
  let unit := Nat.pow 2 (n.log2 - 52)
  let kept := n / unit
  let rest := n % unit
  if unit < 2 * rest ∨ (unit = 2 * rest ∧ kept % 2 = 1) then (kept + 1) * unit else kept * unit

/-- A number of at most 53 bits is not rounded. -/
theorem roundToFloat_of_lt {n : Nat} (h : n.log2 ≤ 52) : roundToFloat n = n := by
  simp [roundToFloat, Nat.sub_eq_zero_of_le h, Nat.mod_one]

/-- The greatest power of ten that is a float. -/
def powerLimit : Int := 308

/-- Whether the parts of a number make a finite float. -/
def Scaled.isFinite (n : Scaled) : Bool :=
  if n.significand = 0 ∨ n.power < 0 then true
  else if powerLimit < n.power then false
  else
    roundToFloat n.significand * roundToFloat (Nat.pow 10 n.power.toNat) <
      Nat.pow 2 1024 - Nat.pow 2 970

/-- Whether a number that is written with some digits and a sign is a finite float. -/
def isFinite (literal : List Char) : Bool := (Scaled.ofLiteral literal).isFinite

end RoundTrip.Json
