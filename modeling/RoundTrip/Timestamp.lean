/-!
# Points in time

A point in time is a date of the Gregorian calendar and a time of day, in UTC, to the nanosecond.
The second 60 is a leap second.

The written form is that of RFC 3339 with `Z`, and with no fraction or one of 3, 6 or 9 digits,
the fewest that show it. The read form is more liberal: fields may be short, blanks may stand
around them, and the time may be one of another zone, which is then shifted.
-/

namespace RoundTrip

/-- A point in time. -/
structure Timestamp where
  /-- The year. -/
  year : Int
  /-- The month, from 1. -/
  month : Nat
  /-- The day of the month, from 1. -/
  day : Nat
  /-- The hour. -/
  hour : Nat
  /-- The minute. -/
  minute : Nat
  /-- The second; 60 is a leap second. -/
  second : Nat
  /-- The nanoseconds behind the second. -/
  nanos : Nat
  deriving DecidableEq, Inhabited

namespace Timestamp

/-- Whether a year has 366 days. -/
def isLeapYear (year : Int) : Bool :=
  year.emod 4 == 0 && (year.emod 100 != 0 || year.emod 400 == 0)

/-- How many days a month has. -/
def daysIn (year : Int) : Nat → Nat
  | 2 => if isLeapYear year then 29 else 28
  | 4 | 6 | 9 | 11 => 30
  | _ => 31

/-- Whether the fields are those of a point in time between the first day of the year -262143 and
the last of the year 262142. -/
def IsValid (t : Timestamp) : Prop :=
  -262143 ≤ t.year ∧ t.year ≤ 262142 ∧ 1 ≤ t.month ∧ t.month ≤ 12 ∧ 1 ≤ t.day
    ∧ t.day ≤ daysIn t.year t.month ∧ t.hour < 24 ∧ t.minute < 60 ∧ t.second ≤ 60
    ∧ t.nanos < 1000000000

instance (t : Timestamp) : Decidable t.IsValid := by unfold IsValid; infer_instance

/-- The same time on the day before. -/
def dayBefore (t : Timestamp) : Timestamp :=
  if 1 < t.day then { t with day := t.day - 1 }
  else if 1 < t.month then { t with month := t.month - 1, day := daysIn t.year (t.month - 1) }
  else { t with year := t.year - 1, month := 12, day := 31 }

/-- The same time on the day after. -/
def dayAfter (t : Timestamp) : Timestamp :=
  if t.day < daysIn t.year t.month then { t with day := t.day + 1 }
  else if t.month < 12 then { t with month := t.month + 1, day := 1 }
  else { t with year := t.year + 1, month := 1, day := 1 }

/-- The point in time that is `minutes` earlier, where that is less than a day. -/
def earlier (t : Timestamp) (minutes : Int) : Timestamp :=
  let m : Int := t.hour * 60 + t.minute - minutes
  let day := if m < 0 then t.dayBefore else if 1440 ≤ m then t.dayAfter else t
  let m := (m.emod 1440).toNat
  { day with hour := m / 60, minute := m % 60 }

/-- A number with at least `width` digits. -/
def padded (width n : Nat) : List Char :=
  let digits := Nat.toDigits 10 n
  List.replicate (width - digits.length) '0' ++ digits

/-- The year: four digits from 0 to 9999, and with a sign outside of that. -/
def yearText (year : Int) : List Char :=
  if 0 ≤ year ∧ year ≤ 9999 then padded 4 year.toNat
  else (if 0 ≤ year then '+' else '-') :: padded 4 year.natAbs

/-- The fraction of a second, with the fewest digits of 0, 3, 6 and 9 that show it. -/
def fractionText (nanos : Nat) : List Char :=
  if nanos = 0 then []
  else if nanos % 1000000 = 0 then '.' :: padded 3 (nanos / 1000000)
  else if nanos % 1000 = 0 then '.' :: padded 6 (nanos / 1000)
  else '.' :: padded 9 nanos

/-- The written form of a point in time. -/
def chars (t : Timestamp) : List Char :=
  yearText t.year ++ '-' :: (padded 2 t.month ++ '-' :: (padded 2 t.day ++ 'T' ::
    (padded 2 t.hour ++ ':' :: (padded 2 t.minute ++ ':' :: (padded 2 t.second
      ++ fractionText t.nanos ++ ['Z'])))))

/-- The written form of a point in time. -/
def text (t : Timestamp) : String := String.ofList t.chars

end Timestamp

end RoundTrip
