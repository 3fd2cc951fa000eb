import Casebook.Number.Double
import Mathlib.Algebra.Order.Ring.Nat
import Mathlib.Tactic.Ring

/-!
# Rounding to doubles

A step count is that of a double if it takes no more than the significant bits of a double.
Rounding yields such step counts only and leaves them as they are, and it depends on the number that
is rounded, not on the fraction that denotes it.

Main definitions:

- {lit}`Double.Representable`: a step count is that of a double.

Main results:

- Theorem {lit}`Double.nearest_mul`: equal fractions are rounded alike.
- Theorem {lit}`Double.representable_nearest`: rounding yields the step count of a double.
- Theorem {lit}`Double.nearest_of_representable`: the step count of a double is left as it is.
- Theorem {lit}`Double.nearestDecimal_mul_pow`: a coefficient may be extended by zeros.
- Theorem {lit}`Double.representable_of_ofNumeral?`: numerals denote doubles.
-/

namespace Casebook
namespace Double

/-! ## Rounding to whole numbers -/

/-- Equal fractions are rounded alike. -/
theorem roundHalfEven_mul {c : Nat} (hc : 0 < c) (num den : Nat) :
    roundHalfEven (num * c) (den * c) = roundHalfEven num den := by
  have htwice : 2 * (num % den * c) = 2 * (num % den) * c := by ring
  simp only [roundHalfEven, Nat.mul_div_mul_right num den hc, Nat.mul_mod_mul_right, htwice,
    Nat.mul_lt_mul_right hc]

/-- A whole number is left as it is. -/
theorem roundHalfEven_mul_self {den : Nat} (h : 0 < den) (n : Nat) :
    roundHalfEven (n * den) den = n := by
  simp [roundHalfEven, Nat.mul_div_cancel n h, h]

/-- A number is rounded down or up to the next whole number. -/
theorem roundHalfEven_le (num den : Nat) : roundHalfEven num den ≤ num / den + 1 := by
  simp only [roundHalfEven]
  split_ifs <;> omega

/-! ## Step counts of doubles -/

/-- A step count is that of a double: it is a multiple of the distance of the doubles around it. -/
def Representable (units : Nat) : Prop :=
  2 ^ gapBits units ∣ units

/-- Doubles around small step counts are close to each other. -/
theorem gapBits_le {units bits : Nat} (h : units < 2 ^ (precision + bits)) :
    gapBits units ≤ bits := by
  rw [gapBits]
  by_cases hzero : units = 0
  · subst hzero
    simp [precision]
  · have hlog : Nat.log2 units < precision + bits := (Nat.log2_lt hzero).mpr h
    omega

/-- A step count between doubles has one bit more than a double at most. -/
theorem div_gap_lt (units : Nat) : units / 2 ^ gapBits units < 2 ^ precision := by
  apply Nat.div_lt_of_lt_mul
  rw [← Nat.pow_add]
  calc units < 2 ^ (Nat.log2 units + 1) := Nat.lt_log2_self
    _ ≤ 2 ^ (gapBits units + precision) := by
        apply Nat.pow_le_pow_right (by decide)
        rw [gapBits]
        omega

/-- A multiple of a power of two is the step count of a double if it does not take too many bits
above. -/
theorem representable_of_dvd {units bits : Nat} (hdvd : 2 ^ bits ∣ units)
    (hlt : units < 2 ^ (precision + bits)) : Representable units :=
  (Nat.pow_dvd_pow 2 (gapBits_le hlt)).trans hdvd

/-- Zero is the step count of a double. -/
theorem representable_zero : Representable 0 :=
  Nat.dvd_zero _

/-! ## Rounding to doubles -/

/-- Equal fractions are rounded to the same double. -/
theorem nearest_mul {c : Nat} (hc : 0 < c) (num den : Nat) :
    nearest (num * c) (den * c) = nearest num den := by
  simp only [nearest, Nat.mul_div_mul_right num den hc]
  rw [Nat.mul_right_comm, roundHalfEven_mul hc]

/-- Rounding yields the step count of a double. -/
theorem representable_nearest (num den : Nat) : Representable (nearest num den) := by
  simp only [nearest, Nat.pow_eq]
  have hquotient := div_gap_lt (num / den)
  generalize gapBits (num / den) = bits at hquotient ⊢
  have hround := roundHalfEven_le num (den * 2 ^ bits)
  rw [← Nat.div_div_eq_div_mul] at hround
  generalize roundHalfEven num (den * 2 ^ bits) = rounded at hround ⊢
  have hle : rounded ≤ 2 ^ precision := by omega
  rcases Nat.lt_or_eq_of_le hle with hlt | rfl
  · refine representable_of_dvd (Nat.dvd_mul_left _ _) ?_
    rw [Nat.pow_add]
    exact Nat.mul_lt_mul_of_pos_right hlt (Nat.two_pow_pos bits)
  -- Rounding up may yield the next power of two, around which doubles are twice as far apart.
  · have hdvd : 2 ^ (bits + 1) ∣ 2 ^ (precision + bits) := by
      apply Nat.pow_dvd_pow 2
      simp only [precision]
      omega
    rw [← Nat.pow_add]
    exact representable_of_dvd hdvd (Nat.pow_lt_pow_right (by decide) (by omega))

/-- The step count of a double is left as it is. -/
theorem nearest_of_representable {units : Nat} (h : Representable units) :
    nearest units 1 = units := by
  simp only [nearest, Nat.div_one, Nat.one_mul, Nat.pow_eq]
  rw [Representable] at h
  generalize gapBits units = bits at h ⊢
  rcases h with ⟨n, rfl⟩
  rw [Nat.mul_comm (2 ^ bits) n, roundHalfEven_mul_self (Nat.two_pow_pos bits)]

/-- Nothing is rounded to zero. -/
theorem nearest_zero (den : Nat) : nearest 0 den = 0 := by
  simp [nearest, roundHalfEven]

/-! ## Decimal numbers -/

/-- A decimal number is rounded to the step count of a double. -/
theorem representable_nearestDecimal (coefficient : Nat) (power : Int) :
    Representable (nearestDecimal coefficient power) := by
  rw [nearestDecimal]
  split
  · exact representable_nearest _ _
  · exact representable_nearest _ _

/-- No tens are rounded to zero. -/
theorem nearestDecimal_zero (power : Int) : nearestDecimal 0 power = 0 := by
  simp [nearestDecimal, nearest_zero]

/-- A coefficient may be extended by a zero. -/
theorem nearestDecimal_mul_ten (coefficient : Nat) (power : Int) :
    nearestDecimal (coefficient * 10) (power - 1) = nearestDecimal coefficient power := by
  simp only [nearestDecimal, Nat.pow_eq]
  generalize unitBits = bits
  rcases Int.lt_trichotomy power 0 with hneg | rfl | hpos
  · have hexponent : (-(power - 1)).toNat = (-power).toNat + 1 := by omega
    rw [if_neg (by omega), if_neg (by omega), hexponent, Nat.pow_succ, Nat.mul_right_comm,
      nearest_mul (by decide)]
  · simp only [Int.zero_sub, Int.neg_neg, Int.toNat_one, Int.toNat_zero, Nat.pow_zero,
      Nat.pow_one, Nat.mul_one]
    rw [if_neg (by decide), if_pos (by decide), Nat.mul_right_comm]
    simpa using nearest_mul (c := 10) (by decide) (coefficient * 2 ^ bits) 1
  · have hexponent : power.toNat = (power - 1).toNat + 1 := by omega
    rw [if_pos (by omega), if_pos (by omega), hexponent, Nat.pow_succ, Nat.mul_assoc coefficient,
      Nat.mul_comm 10]

/-- A coefficient may be extended by any number of zeros. -/
theorem nearestDecimal_mul_pow (coefficient count : Nat) (power : Int) :
    nearestDecimal (coefficient * 10 ^ count) (power - count) =
      nearestDecimal coefficient power := by
  induction count with
  | zero => simp
  | succ count ih =>
      rw [← ih, ← nearestDecimal_mul_ten (coefficient * 10 ^ count), Nat.pow_succ, Nat.mul_assoc]
      congr 1
      omega

/-- A number of halves is rounded like the number of fives that are as many tenths. -/
theorem nearest_mul_five_pow (units bits : Nat) :
    nearest (units * 5 ^ bits * 2 ^ bits) (10 ^ bits) = nearest units 1 := by
  have hten : 10 ^ bits = 1 * (5 ^ bits * 2 ^ bits) := by
    rw [← Nat.mul_pow, Nat.one_mul]
  have hpos : 0 < 5 ^ bits * 2 ^ bits :=
    Nat.mul_pos (Nat.pow_pos (by decide)) (Nat.two_pow_pos bits)
  rw [hten, Nat.mul_assoc]
  exact nearest_mul hpos units 1

/-- A step count as a decimal number is rounded like the step count. -/
theorem nearestDecimal_exact (units : Nat) :
    nearestDecimal (units * Nat.pow 5 unitBits) (-unitBits) = nearest units 1 := by
  have hneg : ¬ (0 : Int) ≤ -(unitBits : Int) := by decide
  rw [nearestDecimal, if_neg hneg, Int.neg_neg, Int.toNat_natCast]
  generalize unitBits = bits
  exact nearest_mul_five_pow units bits

/-- The double that a numeral denotes has the step count of a double. -/
theorem representable_of_ofNumeral? {n : Numeral} {d : Double} (h : ofNumeral? n = some d) :
    Representable d.units := by
  simp only [ofNumeral?] at h
  split_ifs at h
  · cases h
    exact representable_zero
  · cases h
    exact representable_zero
  · cases h
    exact representable_nearestDecimal _ _

end Double
end Casebook
