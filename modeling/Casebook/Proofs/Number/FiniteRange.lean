import Casebook.Proofs.Number.Nearest

/-!
# Which numerals denote finite doubles

A number is rounded beyond the finite range if it is not below the point half way between the
greatest finite double and the power of two after it.  The point itself is rounded up, because the
significand of the greatest finite double is odd.  The two bounds that keep the arithmetic on a
numeral small change nothing about this.

Main results:

- Theorem {lit}`Double.IsNearestCount.lt_pow_iff`: which numbers are rounded to less than a power
  of two.
- Theorem {lit}`Double.ofNumeral?_eq`: a numeral denotes the nearest double unless that one is
  beyond the finite range, however large or small the number is.
- Theorem {lit}`Double.exists_ofNumeral?_iff`: which numerals denote finite doubles.
- Theorem {lit}`Double.isNearest_of_ofNumeral?`: they denote the nearest ones.
-/

namespace Casebook
namespace Double

/-! ## Below a power of two -/

/-- The power of two is the step count of a double. -/
theorem representable_pow (bits : Nat) : Representable (2 ^ precision * 2 ^ bits) := by
  have hdvd : 2 ^ (bits + 1) ∣ 2 ^ precision * 2 ^ bits := by
    rw [← Nat.pow_add]
    apply Nat.pow_dvd_pow
    simp only [precision]
    omega
  apply representable_of_dvd hdvd
  rw [← Nat.pow_add]
  exact Nat.pow_lt_pow_right (by decide) (by omega)

/-- The step count of the last double before the power of two. -/
theorem representable_pred (bits : Nat) : Representable ((2 ^ precision - 1) * 2 ^ bits) := by
  apply representable_of_dvd (Nat.dvd_mul_left _ _)
  rw [Nat.pow_add]
  exact Nat.mul_lt_mul_of_pos_right (by decide) (Nat.two_pow_pos bits)

/-- There is no double between the last one before the power of two and the power itself. -/
theorem le_pred_of_lt {units bits : Nat} (h : Representable units)
    (hlt : units < 2 ^ precision * 2 ^ bits) : units ≤ (2 ^ precision - 1) * 2 ^ bits := by
  by_cases hdvd : 2 ^ bits ∣ units
  · obtain ⟨k, rfl⟩ := hdvd
    rw [Nat.mul_comm (2 ^ bits) k] at hlt ⊢
    have hk := Nat.lt_of_mul_lt_mul_right hlt
    exact Nat.mul_le_mul_right _ (by omega)
  · have hfew := lt_of_not_dvd h hdvd
    rw [Nat.pow_add] at hfew
    exact hfew.le.trans (Nat.mul_le_mul_right _ (by decide))

/-- The last double before the power of two has an odd significand. -/
theorem significand_pred (bits : Nat) :
    significand ((2 ^ precision - 1) * 2 ^ bits) = 2 ^ precision - 1 := by
  rw [significand, gapBits_mul_pow (by decide) (Or.inr (by decide)),
    Nat.mul_div_cancel _ (Nat.two_pow_pos bits)]

section Midpoint

variable {units : Nat} {q : ℚ}

/-- The last double before the power of two is one step before it. -/
theorem cast_pred (bits : Nat) : (((2 ^ precision - 1) * 2 ^ bits : Nat) : ℚ) =
    2 ^ precision * 2 ^ bits - 2 ^ bits := by
  have hone : 1 ≤ 2 ^ precision := Nat.one_le_two_pow
  rw [Nat.cast_mul, Nat.cast_sub hone]
  push_cast
  ring

/-- What is rounded to less than a power of two is below the point half way before it. -/
theorem IsNearestCount.lt_midpoint {bits : Nat} (h : IsNearestCount units q)
    (hlt : units < 2 ^ precision * 2 ^ bits) : q < (2 ^ precision - 1 / 2) * 2 ^ bits := by
  have hgap : (0 : ℚ) < 2 ^ bits := by positivity
  have hlast : (units : ℚ) ≤ 2 ^ precision * 2 ^ bits - 2 ^ bits := by
    rw [← cast_pred]
    exact_mod_cast le_pred_of_lt h.representable hlt
  have hnear := h.near _ (representable_pow bits)
  by_contra hbeyond
  rw [not_lt, sub_mul] at hbeyond
  push_cast at hnear
  rw [abs_of_nonpos (by linarith : (units : ℚ) - q ≤ 0)] at hnear
  have hbelow : q < 2 ^ precision * 2 ^ bits := by
    by_contra hge
    rw [abs_of_nonpos (by linarith)] at hnear
    linarith
  rw [abs_of_pos (by linarith)] at hnear
  -- The number is the midpoint, and it was rounded down to an odd significand.
  have hsame : units = (2 ^ precision - 1) * 2 ^ bits := by
    have hcast : (units : ℚ) = ((2 ^ precision - 1) * 2 ^ bits : Nat) := by
      rw [cast_pred]
      linarith
    exact_mod_cast hcast
  have heven := h.even _ (representable_pow bits) hlt.ne' (by
    push_cast
    rw [abs_of_pos (by linarith), abs_of_nonpos (by linarith)]
    linarith)
  rw [hsame, significand_pred] at heven
  exact absurd heven (by decide)

/-- What is below the point half way before a power of two is rounded to less than the power. -/
theorem IsNearestCount.lt_pow_of_lt {bits : Nat} (h : IsNearestCount units q)
    (hlt : q < (2 ^ precision - 1 / 2) * 2 ^ bits) : units < 2 ^ precision * 2 ^ bits := by
  have hgap : (0 : ℚ) < 2 ^ bits := by positivity
  have hnear := h.near _ (representable_pred bits)
  rw [cast_pred] at hnear
  rw [sub_mul] at hlt
  by_contra hbeyond
  have hpower : (2 : ℚ) ^ precision * 2 ^ bits ≤ units := by
    exact_mod_cast Nat.le_of_not_lt hbeyond
  rw [abs_of_pos (by linarith : 0 < (units : ℚ) - q), le_abs] at hnear
  cases hnear with
  | inl hbefore => linarith
  | inr hbehind => linarith

/-- The numbers that are rounded to less than a power of two are those below the point half way
between it and the last double before it. -/
theorem IsNearestCount.lt_pow_iff (h : IsNearestCount units q) (bits : Nat) :
    units < 2 ^ precision * 2 ^ bits ↔ q < (2 ^ precision - 1 / 2) * 2 ^ bits :=
  ⟨h.lt_midpoint, h.lt_pow_of_lt⟩

/-- A number of less than half a step is rounded to zero. -/
theorem IsNearestCount.eq_zero (h : IsNearestCount units q) (hq : 0 ≤ q) (hlt : q < 1 / 2) :
    units = 0 := by
  have hnear := h.near 0 representable_zero
  rw [Nat.cast_zero, zero_sub, abs_neg, abs_of_nonneg hq] at hnear
  by_contra hne
  have hone : (1 : ℚ) ≤ units := by exact_mod_cast Nat.one_le_iff_ne_zero.mpr hne
  rw [abs_of_pos (by linarith)] at hnear
  linarith

end Midpoint

/-! ## Decimal numbers -/

/-- A decimal number is rounded to the nearest step count. -/
theorem isNearestCount_nearestDecimal (coefficient : Nat) (power : Int) :
    IsNearestCount (nearestDecimal coefficient power)
      ((coefficient : ℚ) * (10 : ℚ) ^ power * 2 ^ unitBits) := by
  rw [nearestDecimal]
  simp only [Nat.pow_eq]
  generalize unitBits = bits
  split
  · rename_i hpower
    have hnearest := isNearestCount_nearest Nat.one_pos
      (coefficient * 10 ^ power.toNat * 2 ^ bits)
    have hexponent : (10 : ℚ) ^ power = 10 ^ power.toNat := by
      rw [← zpow_natCast, Int.toNat_of_nonneg hpower]
    push_cast at hnearest
    rw [div_one] at hnearest
    rw [hexponent]
    exact hnearest
  · rename_i hpower
    have hden : 0 < 10 ^ (-power).toNat := Nat.pow_pos (by decide)
    have hnearest := isNearestCount_nearest hden (coefficient * 2 ^ bits)
    have hexponent : (10 : ℚ) ^ power = (10 ^ (-power).toNat)⁻¹ := by
      rw [← zpow_natCast, Int.toNat_of_nonneg (by omega), ← zpow_neg, neg_neg]
    push_cast at hnearest
    rw [hexponent, mul_right_comm, ← div_eq_mul_inv]
    exact hnearest

/-- The decimal numbers within the finite range are those below the point half way between the
greatest finite double and the power of two after it. -/
theorem nearestDecimal_lt_limit_iff (coefficient : Nat) (power : Int) :
    nearestDecimal coefficient power < limit ↔
      (coefficient : ℚ) * (10 : ℚ) ^ power < 2 ^ 1024 - 2 ^ 970 := by
  have hlimit : limit = 2 ^ precision * 2 ^ 2045 := by decide +kernel
  have hmidpoint : ((2 : ℚ) ^ precision - 1 / 2) * 2 ^ 2045 =
      (2 ^ 1024 - 2 ^ 970) * 2 ^ unitBits := by
    have hlast : 2045 = 970 + 1 + unitBits := rfl
    have htop : 1024 = precision + (970 + 1) := rfl
    rw [hlast, htop, pow_add _ (970 + 1) unitBits, pow_add _ precision (970 + 1), pow_succ]
    generalize (2 : ℚ) ^ 970 = half
    generalize (2 : ℚ) ^ unitBits = one
    ring
  have hpos : (0 : ℚ) < 2 ^ unitBits := by positivity
  rw [hlimit, (isNearestCount_nearestDecimal coefficient power).lt_pow_iff, hmidpoint]
  exact mul_lt_mul_iff_of_pos_right hpos

/-! ## Numerals -/

/-- A numeral is rounded to the nearest step count. -/
theorem isNearestCount_numeral (n : Numeral) :
    IsNearestCount (nearestDecimal (Digit.value n.digits) n.scale)
      (n.magnitude * 2 ^ unitBits) := by
  rw [n.magnitude_eq]
  exact isNearestCount_nearestDecimal _ _

/-- A numeral is rounded to a step count within the finite range if it denotes less than the point
half way between the greatest finite double and the power of two after it. -/
theorem numeral_lt_limit_iff (n : Numeral) :
    nearestDecimal (Digit.value n.digits) n.scale < limit ↔
      n.magnitude < 2 ^ 1024 - 2 ^ 970 := by
  rw [n.magnitude_eq, nearestDecimal_lt_limit_iff]

/-- A numeral with a large scale is out of the finite range, whatever its digits. -/
theorem not_lt_limit_of_scale {n : Numeral} (hdigits : Digit.value n.digits ≠ 0)
    (hscale : 310 ≤ n.scale) : ¬ nearestDecimal (Digit.value n.digits) n.scale < limit := by
  have hpower : (2 : ℚ) ^ 1024 ≤ 10 ^ 310 := by
    have hnat : 2 ^ 1024 ≤ 10 ^ 310 := by decide +kernel
    exact_mod_cast hnat
  have hscaled : (10 : ℚ) ^ 310 ≤ 10 ^ n.scale := by
    rw [← zpow_natCast]
    exact zpow_le_zpow_right₀ (by norm_num) hscale
  rw [numeral_lt_limit_iff, not_lt]
  calc (2 : ℚ) ^ 1024 - 2 ^ 970 ≤ 2 ^ 1024 := sub_le_self _ (by positivity)
    _ ≤ 10 ^ n.scale := hpower.trans hscaled
    _ ≤ n.magnitude := Numeral.pow_scale_le_magnitude hdigits

/-- A numeral whose digits all stand far behind the point is rounded to zero. -/
theorem nearestDecimal_eq_zero_of_scale {n : Numeral}
    (hscale : n.scale + n.digits.length ≤ -330) :
    nearestDecimal (Digit.value n.digits) n.scale = 0 := by
  have hpower : (10 : ℚ) ^ (-330 : ℤ) * 2 ^ unitBits < 1 / 2 := by
    have hnat : 2 * 2 ^ unitBits < 10 ^ 330 := by decide +kernel
    have hcast : 2 * (2 : ℚ) ^ unitBits < 10 ^ 330 := by exact_mod_cast hnat
    have hexponent : (10 : ℚ) ^ (330 : ℤ) = 10 ^ 330 := zpow_natCast 10 330
    rw [zpow_neg, hexponent, inv_mul_eq_div, div_lt_div_iff₀ (by positivity) two_pos, one_mul,
      mul_comm]
    exact hcast
  have hscaled : (10 : ℚ) ^ (n.scale + n.digits.length) ≤ 10 ^ (-330 : ℤ) :=
    zpow_le_zpow_right₀ (by norm_num) hscale
  have hpos : (0 : ℚ) < 2 ^ unitBits := by positivity
  have hsteps := mul_lt_mul_of_pos_right (n.magnitude_lt_pow.trans_le hscaled) hpos
  have hmagnitude := mul_nonneg n.magnitude_nonneg hpos.le
  exact (isNearestCount_numeral n).eq_zero hmagnitude (hsteps.trans hpower)

/-- A numeral denotes the nearest double unless that one is beyond the finite range, however large
or small the number is. -/
theorem ofNumeral?_eq (n : Numeral) :
    ofNumeral? n =
      if nearestDecimal (Digit.value n.digits) n.scale < limit then
        some ⟨n.negative, nearestDecimal (Digit.value n.digits) n.scale⟩
      else none := by
  have hlimit : 0 < limit := by decide +kernel
  rw [ofNumeral?]
  by_cases hdigits : Digit.value n.digits = 0
  · simp [hdigits, nearestDecimal_zero, hlimit, zero]
  · by_cases hlarge : 310 ≤ n.scale
    · have hout := not_lt_limit_of_scale hdigits hlarge
      simp [hdigits, hlarge, hout]
    · by_cases hsmall : n.scale + n.digits.length ≤ -330
      · have hzero := nearestDecimal_eq_zero_of_scale hsmall
        simp [hdigits, hlarge, hsmall, hzero, hlimit, zero]
      · simp [hdigits, hlarge, hsmall]

/-- The numerals that denote finite doubles are those that denote less than the point half way
between the greatest one and the power of two after it. -/
theorem exists_ofNumeral?_iff (n : Numeral) :
    (∃ d, ofNumeral? n = some d) ↔ n.magnitude < 2 ^ 1024 - 2 ^ 970 := by
  rw [ofNumeral?_eq, ← numeral_lt_limit_iff]
  split <;> simp_all

/-- A numeral denotes the nearest double, with its own sign. -/
theorem isNearest_of_ofNumeral? {n : Numeral} {d : Double} (h : ofNumeral? n = some d) :
    d.negative = n.negative ∧ d.units < limit ∧ d.IsNearest n.toRat := by
  rw [ofNumeral?_eq] at h
  split at h
  · rename_i hlt
    cases h
    exact ⟨rfl, hlt, (isNearestCount_numeral n).isNearest n.magnitude_nonneg n.negative⟩
  · contradiction

end Double
end Casebook
