import Casebook.Proofs.Json.NumberText
import Casebook.Proofs.Number.FiniteRange
import Casebook.Proofs.Value.Classification

/-!
# What the text of a number is typed as

Numbers are never altered silently.  The text of a number decides alone what it is typed as: without
a point and an exponent it is the very integer that it denotes, if that takes no more than 64 bits,
and otherwise a double nearest to the number that it denotes, if that is not rounded beyond the
finite range.  In all other cases it is refused.

Main definitions:

- {lit}`Double.IsFinite`: a double within the finite range, with as many significant bits as a
  double has.

Main results:

- Theorem {lit}`Json.classify_of_isInteger`: a number written as an integer is typed as it or
  refused.
- Theorem {lit}`Json.classify_of_not_isInteger`: a number written otherwise is typed as a nearest
  double or refused.
- Theorem {lit}`classify_literal`: the same, told by the text of the number.
-/

namespace Casebook

/-- A double within the finite range, with as many significant bits as a double has. -/
structure Double.IsFinite (d : Double) : Prop where
  representable : Representable d.units
  inRange : d.units < limit

/-- The message about a number out of range contains the written form of the number. -/
theorem ValueFault.exists_describeNumeral_eq (n : Numeral) :
    ∃ before after, describeNumeral n = before ++ n.text ++ after := by
  rw [describeNumeral]
  split
  · exact ⟨_, _, rfl⟩
  · refine ⟨"non-finite number ", "", ?_⟩
    rw [String.append_empty]

namespace Json

variable (role : Role) (here : Location) {n : Numeral}

/-- A number written as an integer is typed as it or, if it takes more than 64 bits, refused. -/
theorem classify_of_isInteger (h : n.isInteger = true) :
    classify role here (.number n) =
      if -2 ^ 63 ≤ n.toInt ∧ n.toInt ≤ 2 ^ 63 - 1 then .ok (.int n.toInt)
      else .error (.outOfRange here n) := by
  have hbounds : (Numeral.minInt ≤ n.toInt ∧ n.toInt ≤ Numeral.maxInt) ↔
      (-2 ^ 63 ≤ n.toInt ∧ n.toInt ≤ 2 ^ 63 - 1) := by
    simp only [Numeral.minInt, Numeral.maxInt]
    norm_num
  change classifyNested here (.number n) = _
  rw [classifyNested, Numeral.value?, if_pos h]
  simp only [hbounds]
  split <;> simp_all

/-- A number written otherwise is typed as a nearest double or, if that is beyond the finite range,
refused. -/
theorem classify_of_not_isInteger (h : n.isInteger = false) :
    (n.magnitude < 2 ^ 1024 - 2 ^ 970 → ∃ d, classify role here (.number n) = .ok (.double d) ∧
        d.IsFinite ∧ d.negative = n.negative ∧ d.IsNearest n.toRat) ∧
      (2 ^ 1024 - 2 ^ 970 ≤ n.magnitude →
        classify role here (.number n) = .error (.outOfRange here n)) := by
  have hclassify : classify role here (.number n) =
      match Double.ofNumeral? n with
      | some d => .ok (.double d)
      | none => .error (.outOfRange here n) := by
    change classifyNested here (.number n) = _
    rw [classifyNested, Numeral.value?, h]
    cases Double.ofNumeral? n <;> rfl
  rw [hclassify]
  constructor
  · intro hlt
    obtain ⟨d, hd⟩ := (Double.exists_ofNumeral?_iff n).mpr hlt
    obtain ⟨hsign, hrange, hnearest⟩ := Double.isNearest_of_ofNumeral? hd
    rw [hd]
    exact ⟨d, rfl, ⟨Double.representable_of_ofNumeral? hd, hrange⟩, hsign, hnearest⟩
  · intro hle
    have hnone : Double.ofNumeral? n = none := by
      rw [Option.eq_none_iff_forall_ne_some]
      intro d hd
      exact absurd ((Double.exists_ofNumeral?_iff n).mp ⟨d, hd⟩) (not_lt.mpr hle)
    rw [hnone]

end Json

/-- A text that spells a number is read as this number, and decides what the number is typed as.  In
integer form it is the integer that it denotes, if that takes no more than 64 bits, and is refused
with its text otherwise.  In any other form it is a finite double nearest to what it denotes, if
that is below the point half way between the greatest one and the power of two after it, and is
refused otherwise. -/
theorem classify_literal {text : String} {n : Numeral} (hn : n.WellFormed)
    (htext : n.SpelledBy text) (role : Role) (here : Location) :
    Json.numeral? text = some n ∧
      (Json.IntegerForm text → ∃ z : ℤ, (z : ℚ) = n.toRat ∧
        (-2 ^ 63 ≤ z ∧ z ≤ 2 ^ 63 - 1 → (Json.number n).classify role here = .ok (.int z)) ∧
        (¬ (-2 ^ 63 ≤ z ∧ z ≤ 2 ^ 63 - 1) →
          (Json.number n).classify role here = .error (.outOfRange here n) ∧
          ∃ before after, ValueFault.describeNumeral n = before ++ text ++ after)) ∧
      (¬ Json.IntegerForm text →
        (|n.toRat| < 2 ^ 1024 - 2 ^ 970 →
          ∃ d, (Json.number n).classify role here = .ok (.double d) ∧ d.IsFinite ∧
            d.negative = n.negative ∧ d.IsNearest n.toRat) ∧
        (2 ^ 1024 - 2 ^ 970 ≤ |n.toRat| →
          (Json.number n).classify role here = .error (.outOfRange here n))) := by
  refine ⟨(Json.numeral?_eq_some_iff text n).mpr ⟨hn, htext⟩, ?_, ?_⟩
  · intro hform
    have hinteger := htext.integerForm_iff.mp hform
    have hclassify := Json.classify_of_isInteger role here hinteger
    refine ⟨n.toInt, (Numeral.toRat_eq_toInt hinteger).symm, ?_, ?_⟩
    · intro hrange
      rw [hclassify, if_pos hrange]
    · intro hrange
      have hexponent : n.exponent = none := by
        rw [Numeral.isInteger, Bool.and_eq_true, Option.isNone_iff_eq_none,
          Option.isNone_iff_eq_none] at hinteger
        exact hinteger.2
      rw [hclassify, if_neg hrange, ← htext.text_eq hexponent]
      exact ⟨rfl, ValueFault.exists_describeNumeral_eq n⟩
  · intro hform
    have hinteger : n.isInteger = false := by
      rw [Bool.eq_false_iff]
      exact fun h => hform (htext.integerForm_iff.mpr h)
    rw [n.abs_toRat]
    exact Json.classify_of_not_isInteger role here hinteger

/-- Four texts on the borders: a negative zero, the first integer with more than 64 bits, the same
integer with a point, and a power of ten beyond the finite range. -/
theorem classify_literal_borders :
    (Json.number ⟨true, [.zero], none, none⟩).classify .input [] = .ok (.int 0) ∧
      (Json.number (.ofInt 9223372036854775808)).classify .input [] =
        .error (.outOfRange [] (.ofInt 9223372036854775808)) ∧
      (∃ d, (Json.number ⟨false, Digit.ofNat 9223372036854775808, some [.zero], none⟩).classify
        .expected [] = .ok (.double d) ∧ d.IsFinite) ∧
      (Json.number ⟨false, Digit.ofNat 1, none, some (.ofInt 400)⟩).classify .expected [] =
        .error (.outOfRange [] ⟨false, Digit.ofNat 1, none, some (.ofInt 400)⟩) := by
  have hzero : Json.numeral? "-0" = some ⟨true, [.zero], none, none⟩ := by decide +kernel
  have hinteger : Json.numeral? "9223372036854775808" = some (.ofInt 9223372036854775808) := by
    decide +kernel
  have hpoint : Json.numeral? "9223372036854775808.0" =
      some ⟨false, Digit.ofNat 9223372036854775808, some [.zero], none⟩ := by
    decide +kernel
  have hpower : Json.numeral? "1E400" = some ⟨false, Digit.ofNat 1, none, some (.ofInt 400)⟩ := by
    decide +kernel
  rw [Json.numeral?_eq_some_iff] at hzero hinteger hpoint hpower
  refine ⟨?_, ?_, ?_, ?_⟩
  · have hform := hzero.2.integerForm_iff.mpr rfl
    obtain ⟨z, hz, htyped, -⟩ := (classify_literal hzero.1 hzero.2 .input []).2.1 hform
    have hvalue : z = 0 := by
      rw [Numeral.toRat_eq_toInt rfl] at hz
      exact Int.cast_injective hz
    rw [hvalue] at htyped
    exact htyped (by decide)
  · have hform := hinteger.2.integerForm_iff.mpr rfl
    obtain ⟨z, hz, -, hrefused⟩ := (classify_literal hinteger.1 hinteger.2 .input []).2.1 hform
    have hvalue : z = 9223372036854775808 := by
      rw [Numeral.toRat_eq_toInt rfl, Numeral.toInt_ofInt] at hz
      exact Int.cast_injective hz
    rw [hvalue] at hrefused
    exact (hrefused (by decide)).1
  · have hform : ¬ Json.IntegerForm "9223372036854775808.0" := by
      rw [hpoint.2.integerForm_iff]
      simp [Numeral.isInteger]
    have hdouble := (classify_literal hpoint.1 hpoint.2 .expected []).2.2 hform
    rw [Numeral.abs_toRat, ← Double.numeral_lt_limit_iff] at hdouble
    obtain ⟨d, hd, hfinite, -⟩ := hdouble.1 (by decide +kernel)
    exact ⟨d, hd, hfinite⟩
  · have hform : ¬ Json.IntegerForm "1E400" := by
      rw [hpower.2.integerForm_iff]
      simp [Numeral.isInteger]
    have hdouble := (classify_literal hpower.1 hpower.2 .expected []).2.2 hform
    rw [Numeral.abs_toRat, ← not_lt, ← Double.numeral_lt_limit_iff] at hdouble
    exact hdouble.2 (by decide +kernel)

end Casebook
