import Casebook.Number.Numeral
import Mathlib.Data.List.Basic
import Mathlib.Tactic.Ring

/-!
# Numbers as they are written

The digits of a number are written without leading zeros and denote the number.  A numeral is well
formed if it can stand in JSON text.

Main definitions:

- {lit}`Numeral.WellFormed`: the digits of a numeral are those of the number grammar of JSON.

Main results:

- Theorem {lit}`Digit.value_append`: the number that digits denote, followed by other digits.
- Theorem {lit}`Digit.value_ofNat`: the digits of a number denote it.
- Theorem {lit}`Digit.head?_ofNat_ne_zero`: only zero is written with a leading zero.
- Theorem {lit}`Numeral.toInt_ofInt`: the numeral of an integer denotes it.
-/

namespace Casebook

/-! ## Digits -/

namespace Digit

/-- Reading digits after a number moves the number to the left. -/
theorem foldl_eq_add_value (total : Nat) (digits : List Digit) :
    digits.foldl (fun total d => 10 * total + d.val) total =
      total * 10 ^ digits.length + value digits := by
  induction digits generalizing total with
  | nil => simp [value]
  | cons d rest ih =>
      have hvalue : value (d :: rest) = (10 * 0 + d.val) * 10 ^ rest.length + value rest := ih _
      rw [List.foldl_cons, ih, hvalue, List.length_cons]
      ring

/-- The number that digits denote, followed by other digits. -/
theorem value_append (digits later : List Digit) :
    value (digits ++ later) = value digits * 10 ^ later.length + value later := by
  rw [value, List.foldl_append, foldl_eq_add_value]
  rfl

/-- A single digit denotes itself. -/
@[simp]
theorem value_singleton (d : Digit) : value [d] = d.val := by
  simp [value]

/-- Zeros denote zero. -/
@[simp]
theorem value_replicate_zero (count : Nat) : value (List.replicate count zero) = 0 := by
  induction count with
  | zero => rfl
  | succ count ih =>
      rw [List.replicate_succ', value_append, ih]
      simp [zero]

/-- Leading zeros do not matter. -/
theorem value_zeros_append (count : Nat) (digits : List Digit) :
    value (List.replicate count zero ++ digits) = value digits := by
  rw [value_append, value_replicate_zero]
  simp

/-- Every zero at the end multiplies by ten. -/
theorem value_append_zeros (digits : List Digit) (count : Nat) :
    value (digits ++ List.replicate count zero) = value digits * 10 ^ count := by
  rw [value_append, value_replicate_zero]
  simp

/-! ## The digits of a number -/

/-- Enough fuel puts the same digits in front of whatever follows. -/
theorem prepend_append {fuel other n : Nat} (hfuel : n < fuel) (hother : n < other)
    (tail later : List Digit) :
    prepend fuel n (tail ++ later) = prepend other n tail ++ later := by
  induction fuel generalizing other n tail with
  | zero => omega
  | succ fuel ih =>
      cases other with
      | zero => omega
      | succ other =>
          rw [prepend, prepend]
          split
          · rfl
          · exact ih (by omega) (by omega) (_ :: tail)

/-- A number below ten is one digit. -/
theorem ofNat_of_lt {n : Nat} (h : n < 10) : ofNat n = [⟨n, h⟩] := by
  simp [ofNat, prepend, h, Nat.mod_eq_of_lt h]

/-- Any other number is the digits of its tenth part, followed by its last digit. -/
theorem ofNat_of_le {n : Nat} (h : 10 ≤ n) :
    ofNat n = ofNat (n / 10) ++ [⟨n % 10, Nat.mod_lt n (by decide)⟩] := by
  rw [ofNat, prepend, if_neg (by omega)]
  exact prepend_append (by omega) (by omega) [] _

/-- The digits of a number denote it. -/
@[simp]
theorem value_ofNat (n : Nat) : value (ofNat n) = n := by
  induction n using Nat.strong_induction_on with
  | _ n ih =>
      by_cases hsmall : n < 10
      · simp [ofNat_of_lt hsmall]
      · rw [ofNat_of_le (by omega), value_append, ih (n / 10) (by omega)]
        simp only [List.length_singleton, value_singleton]
        omega

/-- Every number has a digit. -/
theorem ofNat_ne_nil (n : Nat) : ofNat n ≠ [] := by
  by_cases hsmall : n < 10
  · simp [ofNat_of_lt hsmall]
  · simp [ofNat_of_le (Nat.le_of_not_lt hsmall)]

/-- Only zero is written with a leading zero. -/
theorem head?_ofNat_ne_zero {n : Nat} (h : n ≠ 0) : (ofNat n).head? ≠ some zero := by
  induction n using Nat.strong_induction_on with
  | _ n ih =>
      by_cases hsmall : n < 10
      · simpa [ofNat_of_lt hsmall, zero, Fin.ext_iff] using h
      · rw [ofNat_of_le (by omega), List.head?_append_of_ne_nil _ (ofNat_ne_nil _)]
        exact ih (n / 10) (by omega) (by omega)

end Digit

/-- The exponent of a power of ten means it. -/
@[simp]
theorem Exponent.toInt_ofInt (power : Int) : (ofInt power).toInt = power := by
  simp only [ofInt, toInt, Digit.value_ofNat, decide_eq_true_eq]
  split <;> omega

namespace Numeral

/-! ## Numerals -/

/-- The digits of a numeral are those of the number grammar of JSON: there is a digit wherever one
can stand, and a leading zero before the point stands alone. -/
structure WellFormed (n : Numeral) : Prop where
  whole : n.whole ≠ []
  leading : n.whole.head? = some Digit.zero → n.whole = [Digit.zero]
  fraction : n.fraction ≠ some []
  exponent : ∀ e, n.exponent = some e → e.digits ≠ []

/-- The numeral of an integer denotes it. -/
@[simp]
theorem toInt_ofInt (z : Int) : (ofInt z).toInt = z := by
  simp only [ofInt, toInt, Digit.value_ofNat, decide_eq_true_eq]
  split <;> omega

/-- Integers with the same numeral are equal. -/
theorem ofInt_injective {z w : Int} (h : ofInt z = ofInt w) : z = w := by
  rw [← toInt_ofInt z, h, toInt_ofInt]

/-- The numeral of an integer is well formed. -/
theorem wellFormed_ofInt (z : Int) : (ofInt z).WellFormed where
  whole := Digit.ofNat_ne_nil _
  leading := by
    intro hhead
    by_cases hzero : z.natAbs = 0
    · simp only [ofInt, hzero]
      rfl
    · exact (Digit.head?_ofNat_ne_zero hzero hhead).elim
  fraction := by simp [ofInt]
  exponent := by simp [ofInt]

end Numeral
end Casebook
