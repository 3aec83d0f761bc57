import Mathlib.Algebra.Group.Nat.Defs
import RoundTrip.Timestamp.Reader

/-!
# What is read back of a point in time

A field is written with leading zeros, and the reader takes its digits up to what stands behind
them (`number?_padded`). The reader is liberal in what stands between the fields, but what is
written has only the separators there. `ofText?_text` says that every point in time is read back
from its text, whatever its year is and however many digits its fraction has.
-/

namespace RoundTrip.Timestamp

variable {rest : List Char}

/-! ## Numbers -/

/-- The digits in front of what is no digit. -/
theorem takeWhile_take_append {width : Nat} {digits : List Char}
    (hdigits : ∀ c ∈ digits, c.isDigit = true) (hwidth : digits.length ≤ width)
    (hrest : ∀ c ∈ rest.head?, c.isDigit = false) :
    ((digits ++ rest).take width).takeWhile Char.isDigit = digits := by
  have hbehind : ∀ n, (rest.take n).takeWhile Char.isDigit = [] := by
    rintro (_ | n)
    · rfl
    · cases rest with
      | nil => rfl
      | cons c rest => simp [hrest c rfl]
  rw [List.take_append, List.take_of_length_le hwidth, List.takeWhile_append_of_pos hdigits,
    hbehind, List.append_nil]

/-- Digits are read up to what stands behind them. -/
theorem number?_append {width : Nat} {digits : List Char} (hne : digits ≠ [])
    (hdigits : ∀ c ∈ digits, c.isDigit = true) (hwidth : digits.length ≤ width)
    (hrest : ∀ c ∈ rest.head?, c.isDigit = false) :
    number? width (digits ++ rest) = some (Nat.ofDigitChars 10 digits 0, rest) := by
  simp only [number?, takeWhile_take_append hdigits hwidth hrest]
  rw [if_neg (by simpa using hne), List.drop_left]

/-- A number with leading zeros consists of digits. -/
theorem isDigit_of_mem_padded {width n : Nat} : ∀ c ∈ padded width n, c.isDigit = true := by
  intro c h
  obtain h | h := List.mem_append.1 h
  · rw [List.eq_of_mem_replicate h]
    rfl
  · exact Nat.isDigit_of_mem_toDigits (by decide) (by decide) h

/-- A number with leading zeros has a digit. -/
theorem padded_ne_nil (width n : Nat) : padded width n ≠ [] := fun h =>
  Nat.toDigits_ne_nil (List.append_eq_nil_iff.1 h).2

/-- A number below the power of ten has as many digits as are asked for. -/
theorem length_padded {width n : Nat} (hwidth : 0 < width) (h : n < 10 ^ width) :
    (padded width n).length = width := by
  have hlength := (Nat.length_toDigits_le_iff (by decide) hwidth).2 h
  simp only [padded, List.length_append, List.length_replicate]
  omega

/-- Leading zeros do not count. -/
theorem ofDigitChars_padded (width n : Nat) : Nat.ofDigitChars 10 (padded width n) 0 = n := by
  rw [padded, Nat.ofDigitChars_append, Nat.ofDigitChars_replicate_zero, Nat.mul_zero,
    Nat.ofDigitChars_ten_toDigits]

/-- A number with leading zeros is read up to what stands behind it. -/
theorem number?_padded {width limit n : Nat} (hlimit : (padded width n).length ≤ limit)
    (hrest : ∀ c ∈ rest.head?, c.isDigit = false) :
    number? limit (padded width n ++ rest) = some (n, rest) := by
  rw [number?_append (padded_ne_nil width n) isDigit_of_mem_padded hlimit hrest,
    ofDigitChars_padded]

/-! ## Fields -/

/-- A digit is no blank. -/
theorem isBlank_of_isDigit {c : Char} (h : c.isDigit = true) : isBlank c = false := by
  have hall : ∀ n < 58, 48 ≤ n → isBlank (Char.ofNat n) = false := by decide
  simp only [Char.isDigit, Bool.and_eq_true, decide_eq_true_eq, ge_iff_le, UInt32.le_iff_toNat_le]
    at h
  rw [← Char.ofNat_toNat c]
  exact hall _ (Nat.lt_succ_of_le h.2) h.1

/-- There is no blank in front of what does not begin with one. -/
theorem skipBlanks_cons {c : Char} (h : isBlank c = false) :
    skipBlanks (c :: rest) = c :: rest := by
  simp [skipBlanks, h]

/-- A number with leading zeros is its first digit and the others. -/
theorem exists_padded_eq (width n : Nat) :
    ∃ c digits, padded width n = c :: digits ∧ c.isDigit = true := by
  obtain ⟨c, digits, h⟩ := List.exists_cons_of_ne_nil (padded_ne_nil width n)
  exact ⟨c, digits, h, isDigit_of_mem_padded c (h ▸ List.mem_cons_self ..)⟩

/-- There is no blank in front of a number. -/
@[simp] theorem skipBlanks_padded (width n : Nat) :
    skipBlanks (padded width n ++ rest) = padded width n ++ rest := by
  obtain ⟨c, digits, h, hc⟩ := exists_padded_eq width n
  rw [h, List.cons_append, skipBlanks_cons (isBlank_of_isDigit hc)]

/-- A field of two digits is read. -/
theorem field?_padded {n : Nat} (h : n < 100) (hrest : ∀ c ∈ rest.head?, c.isDigit = false) :
    field? (padded 2 n ++ rest) = some (n, rest) := by
  rw [field?, skipBlanks_padded, number?_padded (Nat.le_of_eq (length_padded (by decide) h)) hrest]

/-- A separator is read. -/
theorem separator?_cons {c : Char} (h : isBlank c = false) :
    separator? c (c :: rest) = some rest := by
  simp [separator?, skipBlanks_cons h]

/-- A year is read. -/
theorem year?_yearText (year : Int) (hrest : ∀ c ∈ rest.head?, c.isDigit = false) :
    year? (yearText year ++ rest) = some (year, rest) := by
  have hlong : ∀ n : Nat, longNumber? (padded 4 n ++ rest) = some (n, rest) := fun n =>
    number?_padded (by simp) hrest
  rw [yearText]
  split
  · next hyear =>
    obtain ⟨c, digits, h, hc⟩ := exists_padded_eq 4 year.toNat
    have hwidth : (padded 4 year.toNat).length = 4 := length_padded (by decide) (by omega)
    have hnumber := number?_padded (n := year.toNat) (Nat.le_of_eq hwidth) hrest
    rw [year?, skipBlanks_padded]
    split
    · next heq =>
      rw [h] at heq
      obtain ⟨rfl, -⟩ := List.cons.inj heq
      cases hc
    · next heq =>
      rw [h] at heq
      obtain ⟨rfl, -⟩ := List.cons.inj heq
      cases hc
    · rw [hnumber]
      simp only [Option.map_some, Int.ofNat_toNat, Option.some.injEq, Prod.mk.injEq, and_true]
      omega
  · next hyear =>
    split
    · next hsign =>
      rw [year?, List.cons_append, skipBlanks_cons (by decide)]
      simp only [hlong, Option.map_some, Option.some.injEq, Prod.mk.injEq, and_true]
      omega
    · next hsign =>
      rw [year?, List.cons_append, skipBlanks_cons (by decide)]
      simp only [hlong, Option.map_some, Option.some.injEq, Prod.mk.injEq, and_true]
      omega

/-- A fraction of few digits is read. -/
theorem fraction?_padded {width n : Nat} (hpos : 0 < width) (hwidth : width ≤ 9)
    (h : n < 10 ^ width) :
    fraction? ('.' :: padded width n ++ ['Z']) = some (n * 10 ^ (9 - width), ['Z']) := by
  have hlength := length_padded hpos h
  have hzone : ∀ c ∈ ['Z'].head?, c.isDigit = false := by simp
  have hdigits := takeWhile_take_append (isDigit_of_mem_padded (n := n))
    (hlength.symm ▸ hwidth) hzone
  simp only [List.cons_append, fraction?, hdigits]
  rw [if_neg (by simpa using padded_ne_nil width n), ofDigitChars_padded, List.drop_left, hlength]
  rfl

/-- The fraction of a second is read. -/
theorem fraction?_fractionText {nanos : Nat} (h : nanos < 1000000000) :
    fraction? (fractionText nanos ++ ['Z']) = some (nanos, ['Z']) := by
  rw [fractionText]
  split
  · next hzero => rw [hzero]; rfl
  split
  · rw [fraction?_padded (by decide) (by decide) (by omega)]
    congr; omega
  split
  · rw [fraction?_padded (by decide) (by decide) (by omega)]
    congr; omega
  · rw [fraction?_padded (by decide) (by decide) h, Nat.sub_self, Nat.pow_zero, Nat.mul_one]

/-! ## Points in time -/

/-- A time that is no minutes earlier is the same. -/
theorem earlier_zero {t : Timestamp} (h : t.IsValid) : t.earlier 0 = t := by
  obtain ⟨-, -, -, -, -, -, hhour, hminute, -⟩ := h
  have hmod : (t.hour * 60 + t.minute - 0 : Int).emod 1440 = t.hour * 60 + t.minute :=
    (Int.emod_eq_of_lt (by omega) (by omega)).trans (by omega)
  have hminutes : ((t.hour * 60 + t.minute : Int)).toNat = t.hour * 60 + t.minute := by omega
  have hhours : (t.hour * 60 + t.minute) / 60 = t.hour := by omega
  have hrest : (t.hour * 60 + t.minute) % 60 = t.minute := by omega
  rw [earlier, hmod, if_neg (by omega), if_neg (by omega), hminutes, hhours, hrest]

/-- A month has fewer than 100 days. -/
theorem daysIn_lt (year : Int) (month : Nat) : daysIn year month < 100 := by
  rw [daysIn.eq_def]
  split
  · split <;> decide
  all_goals decide

/-- A fraction does not begin with a digit, and nor does the zone. -/
theorem isDigit_fractionText (nanos : Nat) :
    ∀ c ∈ (fractionText nanos ++ ['Z']).head?, c.isDigit = false := by
  rw [fractionText]
  split
  · simp
  split
  · simp
  split <;> simp

/-- What is read first is handed to what reads the rest. -/
theorem bind_of_eq_some {α β : Type} {o : Option α} {a : α} {f : α → Option β} (h : o = some a) :
    (o >>= f) = f a := by
  rw [h]
  rfl

/-- A point in time is read back from its text. -/
theorem ofText?_text {t : Timestamp} (h : t.IsValid) : ofText? t.text = some t := by
  obtain ⟨-, -, -, hmonth, -, hday, hhour, hminute, hsecond, hnanos⟩ := id h
  have hdays := daysIn_lt t.year t.month
  have hdash : isBlank '-' = false := by decide
  have hcolon : isBlank ':' = false := by decide
  have hzone : zone? (skipBlanks ['Z']) = some (0, []) := by decide
  rw [ofText?, text, String.toList_ofList, chars, ofChars?]
  refine (bind_of_eq_some (year?_yearText _ (by simp))).trans ?_
  refine (bind_of_eq_some (separator?_cons hdash)).trans ?_
  refine (bind_of_eq_some (field?_padded (by omega) (by simp))).trans ?_
  refine (bind_of_eq_some (separator?_cons hdash)).trans ?_
  refine (bind_of_eq_some (field?_padded (by omega) (by simp))).trans ?_
  refine (bind_of_eq_some (rfl : mark? ('T' :: _) = _)).trans ?_
  refine (bind_of_eq_some (field?_padded (by omega) (by simp))).trans ?_
  refine (bind_of_eq_some (separator?_cons hcolon)).trans ?_
  refine (bind_of_eq_some (field?_padded (by omega) (by simp))).trans ?_
  refine (bind_of_eq_some (separator?_cons hcolon)).trans ?_
  rw [List.append_assoc]
  refine (bind_of_eq_some (field?_padded (by omega) (isDigit_fractionText _))).trans ?_
  refine (bind_of_eq_some (fraction?_fractionText hnanos)).trans ?_
  refine (bind_of_eq_some hzone).trans ?_
  have hvalid : t.IsValid ∧ (t.earlier 0).IsValid := ⟨h, (earlier_zero h).symm ▸ h⟩
  exact (if_pos hvalid).trans (congrArg some (earlier_zero h))

end RoundTrip.Timestamp
