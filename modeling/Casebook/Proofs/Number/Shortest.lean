import Casebook.Number.Shortest
import Casebook.Proofs.Number.Numeral
import Casebook.Proofs.Number.Rounding

/-!
# Written doubles read back

Whatever layout is chosen, the written form of a decimal number denotes it, and the shortest decimal
of a double reads as the double.  Therefore a double can be told from its written form.

Main definitions:

- {lit}`Numeral.units`: the step count of the double that a numeral reads as.

Main results:

- Theorem {lit}`Shortest.units_decimal`: the shortest decimal of a double reads as the double.
- Theorem {lit}`NumberLayout.units_write`: every layout keeps what a decimal number reads as.
- Theorem {lit}`NumberLayout.wellFormed_write`: every layout writes well-formed numerals.
- Theorem {lit}`Double.numeral_injective`: different doubles are written differently.
-/

namespace Casebook

/-- The step count of the double that a numeral reads as. -/
def Numeral.units (n : Numeral) : Nat :=
  Double.nearestDecimal (Digit.value n.digits) n.scale

namespace Shortest

/-- The shortest decimal of a double reads as the double. -/
theorem units_decimal {units : Nat} (h : Double.Representable units) :
    (decimal units).units = units := by
  unfold decimal
  cases hfound : (candidates units).find? fun d => d.units == units with
  | some d => simpa using List.find?_some hfound
  | none =>
      calc (exact units).units = Double.nearest units 1 := Double.nearestDecimal_exact units
        _ = units := Double.nearest_of_representable h

/-- The coefficient of the shortest decimal of a double other than zero is not zero. -/
theorem coefficient_decimal_ne_zero {units : Nat} (h : Double.Representable units)
    (hne : units ≠ 0) : (decimal units).coefficient ≠ 0 := by
  intro hzero
  apply hne
  rw [← units_decimal h, Decimal.units, hzero, Double.nearestDecimal_zero]

end Shortest

/-! ## Layouts -/

namespace NumberLayout

/-- Scientific notation keeps the digits. -/
theorem digits_scientific (negative : Bool) (digits : List Digit) (leading : Int) :
    (scientific negative digits leading).digits = digits := by
  cases digits with
  | nil => rfl
  | cons d rest => cases rest <;> rfl

/-- Scientific notation keeps what a decimal number reads as. -/
theorem units_scientific (negative : Bool) (d : Shortest.Decimal) :
    (scientific negative (Digit.ofNat d.coefficient)
      (d.power + (Digit.ofNat d.coefficient).length - 1)).units = d.units := by
  have hscale : (scientific negative (Digit.ofNat d.coefficient)
      (d.power + (Digit.ofNat d.coefficient).length - 1)).scale = d.power := by
    cases hdigits : Digit.ofNat d.coefficient with
    | nil => exact (Digit.ofNat_ne_nil _ hdigits).elim
    | cons first rest =>
        cases rest with
        | nil => simp [scientific, Numeral.scale]
        | cons next rest =>
            simp [scientific, Numeral.scale]
            omega
  rw [Numeral.units, digits_scientific, hscale, Digit.value_ofNat]
  rfl

/-- Positional notation keeps what a decimal number reads as, if the point is set after the digit of
the ones. -/
theorem units_positional (negative : Bool) (d : Shortest.Decimal) {count : Nat}
    (hcount : (count : Int) = d.power + (Digit.ofNat d.coefficient).length) :
    (positional negative (Digit.ofNat d.coefficient) count).units = d.units := by
  have hvalue := Digit.value_ofNat d.coefficient
  rw [Shortest.Decimal.units]
  generalize Digit.ofNat d.coefficient = digits at hcount hvalue ⊢
  by_cases hshort : digits.length ≤ count
  -- The digits end before the point: zeros are added, one of them after the point.
  · have hdigits : (positional negative digits count).digits =
        digits ++ List.replicate (count - digits.length + 1) Digit.zero := by
      simp [positional, Numeral.digits, List.drop_eq_nil_of_le hshort,
        List.take_of_length_le hshort, List.replicate_succ']
    have hscale : (positional negative digits count).scale =
        d.power - (count - digits.length + 1 : Nat) := by
      simp [positional, Numeral.scale, List.drop_eq_nil_of_le hshort]
      omega
    rw [Numeral.units, hdigits, hscale, Digit.value_append_zeros, hvalue,
      Double.nearestDecimal_mul_pow]
  · have hrest : digits.drop count ≠ [] := by simpa using hshort
    have hdigits : (positional negative digits count).digits = digits := by
      simp [positional, Numeral.digits, hrest, show count - digits.length = 0 by omega]
    have hscale : (positional negative digits count).scale = d.power := by
      simp [positional, Numeral.scale, hrest]
      omega
    rw [Numeral.units, hdigits, hscale, hvalue]

/-- Every layout keeps what a decimal number reads as. -/
theorem units_write (layout : NumberLayout) (negative : Bool) (d : Shortest.Decimal) :
    (layout.write negative d).units = d.units := by
  simp only [write]
  split_ifs with hfar hones
  · exact units_scientific negative d
  · exact units_positional negative d (by omega)
  · -- The zeros after the point move the digits to where the power of ten says.
    have hscale : (-(((-(d.power + (Digit.ofNat d.coefficient).length - 1)).toNat - 1
        + (Digit.ofNat d.coefficient).length : Nat) : Int)) = d.power := by
      have hpos := List.length_pos_of_ne_nil (Digit.ofNat_ne_nil d.coefficient)
      omega
    simp only [Numeral.units, Numeral.digits, Numeral.scale, Option.getD_some, Option.map_none,
      Option.getD_none, List.length_append, List.length_replicate, Int.zero_sub, hscale]
    rw [← List.append_assoc, List.singleton_append, ← List.replicate_succ,
      Digit.value_zeros_append, Digit.value_ofNat]
    rfl

/-- Scientific notation is well formed. -/
theorem wellFormed_scientific (negative : Bool) {digits : List Digit} (h : digits ≠ [])
    (leading : Int) : (scientific negative digits leading).WellFormed := by
  cases digits with
  | nil => contradiction
  | cons first rest =>
      refine ⟨by simp [scientific], fun hhead => ?_, ?_, ?_⟩
      · simpa [scientific] using hhead
      · cases rest <;> simp [scientific]
      · rintro e ⟨⟩
        exact Digit.ofNat_ne_nil _

/-- Positional notation of digits without a leading zero is well formed. -/
theorem wellFormed_positional (negative : Bool) {digits : List Digit} (h : digits ≠ [])
    (hleading : digits.head? ≠ some Digit.zero) (count : Nat) :
    (positional negative digits (count + 1)).WellFormed := by
  cases digits with
  | nil => contradiction
  | cons first rest =>
      refine ⟨by simp [positional], fun hhead => ?_, ?_, by simp [positional]⟩
      · simp only [positional, List.take_succ_cons, List.cons_append, List.head?_cons] at hhead
        exact (hleading hhead).elim
      · simp only [positional]
        split <;> simp_all

/-- Every layout writes well-formed numerals. -/
theorem wellFormed_write (layout : NumberLayout) (negative : Bool) {d : Shortest.Decimal}
    (h : d.coefficient ≠ 0) : (layout.write negative d).WellFormed := by
  have hdigits := Digit.ofNat_ne_nil d.coefficient
  simp only [write]
  split_ifs
  · exact wellFormed_scientific negative hdigits _
  · exact wellFormed_positional negative hdigits (Digit.head?_ofNat_ne_zero h) _
  · exact ⟨by simp, by simp, by simp [hdigits], by simp⟩

/-- Every layout writes the sign. -/
theorem negative_write (layout : NumberLayout) (negative : Bool) (d : Shortest.Decimal) :
    (layout.write negative d).negative = negative := by
  simp only [write]
  split_ifs <;> rfl

end NumberLayout

/-! ## Doubles -/

namespace Double

/-- The written form of a double reads as the double. -/
theorem units_numeral {d : Double} (h : Representable d.units) : d.numeral.units = d.units := by
  rw [numeral]
  split
  · next hzero => exact (nearestDecimal_zero _).trans hzero.symm
  · rw [NumberLayout.units_write, Shortest.units_decimal h]

/-- The written form of a double shows its sign. -/
theorem negative_numeral (d : Double) : d.numeral.negative = d.negative := by
  rw [numeral]
  split
  · rfl
  · exact NumberLayout.negative_write _ _ _

/-- The written form of a double is well formed. -/
theorem wellFormed_numeral {d : Double} (h : Representable d.units) : d.numeral.WellFormed := by
  rw [numeral]
  split
  · exact ⟨by simp, by simp, by simp, by simp⟩
  · next hne => exact NumberLayout.wellFormed_write _ _ (Shortest.coefficient_decimal_ne_zero h hne)

/-- Different doubles are written differently. -/
theorem numeral_injective {d e : Double} (hd : Representable d.units)
    (he : Representable e.units) (h : d.numeral = e.numeral) : d = e := by
  have hnegative : d.negative = e.negative := by
    rw [← negative_numeral d, h, negative_numeral]
  have hunits : d.units = e.units := by
    rw [← units_numeral hd, h, units_numeral he]
  cases d
  cases e
  simp only at hnegative hunits
  rw [hnegative, hunits]

end Double
end Casebook
