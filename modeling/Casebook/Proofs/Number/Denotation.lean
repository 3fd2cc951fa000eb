import Casebook.Proofs.Number.Numeral
import Mathlib.Algebra.Order.Field.Power
import Mathlib.Tactic.FieldSimp
import Mathlib.Tactic.Positivity

/-!
# The numbers that numerals denote

A numeral denotes a rational number: the digits before the point count ones, those after it count
fractions of one, and the exponent moves the point.  All digits together, read as one integer and
multiplied by a power of ten, denote the same number.

Main definitions:

- {lit}`signed`: a number with a sign put in front.
- {lit}`Numeral.magnitude`: the number that a numeral denotes, without its sign.
- {lit}`Numeral.toRat`: the number that a numeral denotes.

Main results:

- Theorem {lit}`Numeral.magnitude_eq`: all digits and the scale denote the magnitude.
- Theorem {lit}`Numeral.toRat_eq_toInt`: an integer denotes itself.
- Theorem {lit}`Numeral.magnitude_lt_pow`: the scale and the number of digits bound the magnitude.
-/

namespace Casebook

/-! ## Signs -/

/-- A number with a minus sign put in front, or without. -/
def signed (negative : Bool) (x : ℚ) : ℚ :=
  if negative then -x else x

/-- A sign does not change how far a number is from zero. -/
theorem abs_signed (negative : Bool) (x : ℚ) : |signed negative x| = |x| := by
  cases negative <;> simp [signed]

/-- Numbers with the same sign are as far from each other as without it. -/
theorem abs_signed_sub_signed (negative : Bool) (x y : ℚ) :
    |signed negative x - signed negative y| = |x - y| := by
  cases negative with
  | false => rfl
  | true =>
      have hswap : signed true x - signed true y = y - x := by
        simp only [signed, if_true]
        ring
      rw [hswap, abs_sub_comm]

/-- Numbers with different signs are on the two sides of zero. -/
theorem abs_signed_sub_signed_of_ne {negative other : Bool} (h : negative ≠ other) {x y : ℚ}
    (hx : 0 ≤ x) (hy : 0 ≤ y) : |signed negative x - signed other y| = x + y := by
  have hsum : 0 ≤ x + y := add_nonneg hx hy
  cases negative <;> cases other
  · contradiction
  · have hplus : signed false x - signed true y = x + y := by
      simp [signed]
    rw [hplus, abs_of_nonneg hsum]
  · have hminus : signed true x - signed false y = -(x + y) := by
      simp only [signed, if_true, Bool.false_eq_true, if_false]
      ring
    rw [hminus, abs_neg, abs_of_nonneg hsum]
  · contradiction

/-! ## Numerals -/

/-- Digits denote less than the power of ten with as many zeros. -/
theorem Digit.value_lt_pow (digits : List Digit) : value digits < 10 ^ digits.length := by
  induction digits with
  | nil => simp [value]
  | cons d rest ih =>
      have hvalue := value_append [d] rest
      have hd := d.isLt
      rw [List.singleton_append, value_singleton] at hvalue
      rw [hvalue, List.length_cons, Nat.pow_succ]
      calc d.val * 10 ^ rest.length + value rest < (d.val + 1) * 10 ^ rest.length := by
            rw [Nat.add_mul, Nat.one_mul]
            exact Nat.add_lt_add_left ih _
        _ ≤ 10 ^ rest.length * 10 := by
            rw [Nat.mul_comm]
            exact Nat.mul_le_mul_left _ hd

namespace Numeral

/-- The number that a numeral denotes, without its sign. -/
def magnitude (n : Numeral) : ℚ :=
  (Digit.value n.whole
      + Digit.value (n.fraction.getD []) / 10 ^ (n.fraction.getD []).length)
    * 10 ^ (n.exponent.map Exponent.toInt).getD 0

/-- The number that a numeral denotes. -/
def toRat (n : Numeral) : ℚ :=
  signed n.negative n.magnitude

/-- All digits, multiplied by a power of ten, denote the magnitude. -/
theorem magnitude_eq (n : Numeral) :
    n.magnitude = (Digit.value n.digits : ℚ) * (10 : ℚ) ^ n.scale := by
  have hten : (10 : ℚ) ≠ 0 := by norm_num
  rw [magnitude, digits, scale, Digit.value_append, zpow_sub₀ hten, zpow_natCast]
  push_cast
  field_simp

/-- A magnitude is not negative. -/
theorem magnitude_nonneg (n : Numeral) : 0 ≤ n.magnitude := by
  rw [magnitude_eq]
  positivity

/-- The sign does not matter for the magnitude. -/
theorem abs_toRat (n : Numeral) : |n.toRat| = n.magnitude := by
  rw [toRat, abs_signed, abs_of_nonneg n.magnitude_nonneg]

/-- An integer denotes itself. -/
theorem toRat_eq_toInt {n : Numeral} (h : n.isInteger = true) : n.toRat = n.toInt := by
  rw [isInteger, Bool.and_eq_true, Option.isNone_iff_eq_none, Option.isNone_iff_eq_none] at h
  have hmagnitude : n.magnitude = Digit.value n.whole := by
    simp [magnitude, h.1, h.2, Digit.value]
  rw [toRat, toInt, signed, hmagnitude]
  split <;> simp

/-- A numeral with digits other than zeros denotes at least the power of ten of its scale. -/
theorem pow_scale_le_magnitude {n : Numeral} (h : Digit.value n.digits ≠ 0) :
    (10 : ℚ) ^ n.scale ≤ n.magnitude := by
  have hone : (1 : ℚ) ≤ Digit.value n.digits := by
    exact_mod_cast Nat.one_le_iff_ne_zero.mpr h
  rw [magnitude_eq]
  exact le_mul_of_one_le_left (by positivity) hone

/-- A numeral denotes less than a power of ten. -/
theorem magnitude_lt_pow (n : Numeral) :
    n.magnitude < (10 : ℚ) ^ (n.scale + n.digits.length) := by
  have hten : (10 : ℚ) ≠ 0 := by norm_num
  have hvalue : (Digit.value n.digits : ℚ) < 10 ^ n.digits.length := by
    exact_mod_cast Digit.value_lt_pow n.digits
  rw [magnitude_eq, zpow_add₀ hten, zpow_natCast, mul_comm]
  exact mul_lt_mul_of_pos_left hvalue (by positivity)

end Numeral
end Casebook
