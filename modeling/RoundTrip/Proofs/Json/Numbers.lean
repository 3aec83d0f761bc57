import Mathlib.Algebra.Group.Nat.Defs
import Mathlib.Data.List.TakeWhile
import RoundTrip.Json.Magnitude

/-!
# Which numbers are finite

A literal of digits is read one digit at a time, and it is the number that the digits show as long
as there is room for it (`Scaled.ofLiteral_eq`). A number below `2 ^ 53` is its own floating point
number, so its digits are never too many for one (`isFinite_toDigits`).
-/

namespace RoundTrip.Json

namespace Scaled

/-- More digits make no smaller number. -/
theorem le_ofDigitChars (digits : List Char) (n : Nat) : n ≤ Nat.ofDigitChars 10 digits n := by
  rw [Nat.ofDigitChars_eq_ofDigitChars_zero]
  exact Nat.le_add_right_of_le (Nat.le_mul_of_pos_left n (Nat.pow_pos (by decide)))

-- the comparison with 2^64 must not be computed here
attribute [local irreducible] appended? in
/-- The digits before the point are read one at a time. -/
theorem readWhole_cons (n : Scaled) (digit : Char) (digits : List Char) :
    n.readWhole (digit :: digits) = match n.appended? digit with
      | some next => readWhole { n with significand := next } digits
      | none => { n with power := n.power + (digits.length + 1) } := by
  rfl

/-- Digits for which there is room make the number that they show. -/
theorem readWhole_eq (digits : List Char) (n : Scaled)
    (h : Nat.ofDigitChars 10 digits n.significand < UInt64.size) :
    n.readWhole digits = { n with significand := Nat.ofDigitChars 10 digits n.significand } := by
  induction digits generalizing n with
  | nil => rfl
  | cons digit digits ih =>
    have hnext : Nat.ofDigitChars 10 (digit :: digits) n.significand =
        Nat.ofDigitChars 10 digits (n.significand * 10 + (digit.toNat - '0'.toNat)) := by
      rw [Nat.ofDigitChars_cons, Nat.mul_comm 10]
    rw [hnext] at h
    have hle := le_ofDigitChars digits (n.significand * 10 + (digit.toNat - '0'.toNat))
    have happended : n.appended? digit =
        some (n.significand * 10 + (digit.toNat - '0'.toNat)) := by
      simp only [appended?, if_pos (Nat.lt_of_le_of_lt hle h)]
    rw [readWhole_cons, happended, hnext]
    exact ih { n with significand := n.significand * 10 + (digit.toNat - '0'.toNat) } h

/-- A literal of digits is their number. -/
theorem ofLiteral_eq {digits : List Char} (hdigits : ∀ c ∈ digits, c.isDigit = true)
    (h : Nat.ofDigitChars 10 digits 0 < UInt64.size) :
    ofLiteral digits = ⟨Nat.ofDigitChars 10 digits 0, 0⟩ := by
  have hsign : digits.dropWhile (· == '-') = digits := by
    rw [List.dropWhile_eq_self_iff]
    intro hpos hsign
    have hfirst := hdigits _ (List.getElem_mem hpos)
    rw [beq_iff_eq.1 hsign] at hfirst
    cases hfirst
  have hwhole : digits.takeWhile Char.isDigit = digits := List.takeWhile_eq_self_iff.2 hdigits
  have hmark : digits.dropWhile (fun c => c != 'e' && c != 'E') = [] := by
    rw [List.dropWhile_eq_nil_iff]
    intro c hc
    have hdigit := hdigits c hc
    rw [Bool.and_eq_true, bne_iff_ne, bne_iff_ne]
    constructor
    · rintro rfl
      cases hdigit
    · rintro rfl
      cases hdigit
  simp only [ofLiteral, hsign, hwhole, List.drop_length, exponent, hmark]
  rw [readWhole_eq digits {} h]
  rfl

end Scaled

/-- A number of few digits is finite. -/
theorem isFinite_toDigits {n : Nat} (h : n < 2 ^ 53) : isFinite (Nat.toDigits 10 n) = true := by
  have hvalue : Nat.ofDigitChars 10 (Nat.toDigits 10 n) 0 = n := Nat.ofDigitChars_ten_toDigits
  have hliteral := Scaled.ofLiteral_eq
    (fun c (hc : c ∈ Nat.toDigits 10 n) => Nat.isDigit_of_mem_toDigits (by decide) (by decide) hc)
    (hvalue.symm ▸ Nat.lt_trans h (by decide))
  rw [isFinite, hliteral, hvalue, Scaled.isFinite]
  split
  · rfl
  · next hzero =>
    have hlog : n.log2 ≤ 52 :=
      Nat.le_of_lt_succ ((Nat.log2_lt fun h₀ => hzero (.inl h₀)).2 h)
    have hlimit : 2 ^ 53 < Nat.pow 2 1024 - Nat.pow 2 970 := by decide +kernel
    have hone : roundToFloat (Nat.pow 10 (0 : Int).toNat) = 1 := by decide
    have hpower : ¬ powerLimit < 0 := by decide
    simp only [if_neg hpower, roundToFloat_of_lt hlog, hone]
    simp only [decide_eq_true_eq]
    omega

end RoundTrip.Json
