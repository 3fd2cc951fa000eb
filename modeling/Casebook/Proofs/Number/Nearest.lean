import Casebook.Proofs.Number.Denotation
import Casebook.Proofs.Number.Rounding
import Mathlib.Data.Rat.Cast.Order
import Mathlib.Tactic.Linarith

/-!
# Rounding yields the nearest double

No double is closer to a number than the one that it is rounded to; and if another one is as close,
then the significand of the one chosen is even.  Around the number the doubles are the multiples of
a power of two, among which rounding to whole numbers chooses.  Those that are no multiples of it
are below a power of two that is closer to the number.

Main definitions:

- {lit}`Double.significand`: a step count without the power of two that separates the doubles
  around it.
- {lit}`Double.IsNearestCount`: a step count is that of the double nearest to a number of steps.
- {lit}`Double.toRat`: the number that a double denotes.
- {lit}`Double.IsNearest`: a double is the one nearest to a number.

Main results:

- Theorem {lit}`Double.roundHalfEven_spec`: rounding to whole numbers goes half a step at most, and
  half a step to even numbers only.
- Theorem {lit}`Double.isNearestCount_nearest`: rounding yields the nearest step count.
- Theorem {lit}`Double.IsNearestCount.isNearest`: with the sign of the number, it is the nearest
  double.
-/

namespace Casebook
namespace Double

/-! ## The nearest whole number -/

/-- A fraction is its whole part and what the remainder comes to. -/
theorem cast_div_eq {den : Nat} (hden : 0 < den) (num : Nat) :
    (num : ℚ) / den = (num / den : Nat) + (num % den : Nat) / den := by
  have hpos : (0 : ℚ) < den := by exact_mod_cast hden
  have hsplit : (num : ℚ) = den * (num / den : Nat) + (num % den : Nat) := by
    exact_mod_cast (Nat.div_add_mod num den).symm
  field_simp
  linarith

/-- The distance of a fraction from its whole part. -/
theorem abs_div_sub {den : Nat} (hden : 0 < den) (num : Nat) :
    |((num / den : Nat) : ℚ) - num / den| = (num % den : Nat) / den := by
  have hrest : (0 : ℚ) ≤ (num % den : Nat) / den := by positivity
  rw [cast_div_eq hden, sub_add_cancel_left, abs_neg, abs_of_nonneg hrest]

/-- The distance of a fraction from the whole number after its whole part. -/
theorem abs_div_succ_sub {den : Nat} (hden : 0 < den) (num : Nat) :
    |((num / den + 1 : Nat) : ℚ) - num / den| = 1 - (num % den : Nat) / den := by
  have hless : ((num % den : Nat) : ℚ) / den < 1 := by
    rw [div_lt_one (by exact_mod_cast hden)]
    exact_mod_cast Nat.mod_lt num hden
  rw [cast_div_eq hden]
  push_cast
  rw [add_sub_add_left_eq_sub, abs_of_pos (by linarith)]

/-- Rounding to whole numbers goes half a step at most, and half a step to even numbers only. -/
theorem roundHalfEven_spec {den : Nat} (hden : 0 < den) (num : Nat) :
    |(roundHalfEven num den : ℚ) - num / den| ≤ 1 / 2 ∧
      (|(roundHalfEven num den : ℚ) - num / den| = 1 / 2 → roundHalfEven num den % 2 = 0) := by
  have hpos : (0 : ℚ) < den := by exact_mod_cast hden
  have hdown := abs_div_sub hden num
  have hup := abs_div_succ_sub hden num
  simp only [roundHalfEven]
  rcases Nat.lt_trichotomy (2 * (num % den)) den with hlow | htie | hhigh
  · have hhalf : ((num % den : Nat) : ℚ) / den < 1 / 2 := by
      rw [div_lt_iff₀ hpos]
      have hcast : 2 * ((num % den : Nat) : ℚ) < den := by exact_mod_cast hlow
      linarith
    rw [if_pos hlow, hdown]
    exact ⟨hhalf.le, fun h => absurd h hhalf.ne⟩
  · have hhalf : ((num % den : Nat) : ℚ) / den = 1 / 2 := by
      rw [div_eq_iff hpos.ne']
      have hcast : 2 * ((num % den : Nat) : ℚ) = den := by exact_mod_cast htie
      linarith
    rw [if_neg (by omega), if_neg (by omega)]
    by_cases heven : num / den % 2 = 0
    · rw [if_pos heven, hdown, hhalf]
      exact ⟨le_rfl, fun _ => heven⟩
    · rw [if_neg heven, hup, hhalf]
      exact ⟨by norm_num, fun _ => by omega⟩
  · have hhalf : 1 / 2 < ((num % den : Nat) : ℚ) / den := by
      rw [lt_div_iff₀ hpos]
      have hcast : (den : ℚ) < 2 * (num % den : Nat) := by exact_mod_cast hhigh
      linarith
    rw [if_neg (by omega), if_pos hhigh, hup]
    exact ⟨by linarith, fun h => absurd h (by linarith)⟩

/-- Other whole numbers are half a step away at least. -/
theorem half_le_abs_sub {chosen other : Nat} {x : ℚ} (h : |(chosen : ℚ) - x| ≤ 1 / 2)
    (hne : other ≠ chosen) : 1 / 2 ≤ |(other : ℚ) - x| := by
  have hstep : (1 : ℚ) ≤ |(other : ℚ) - chosen| := by
    have hint : (1 : ℤ) ≤ |(other : ℤ) - chosen| := Int.one_le_abs (by omega)
    exact_mod_cast hint
  have htriangle := abs_sub_le (other : ℚ) x chosen
  rw [abs_sub_comm x] at htriangle
  linarith

/-! ## Significands -/

/-- A step count without the power of two that separates the doubles around it. -/
def significand (units : Nat) : Nat :=
  units / 2 ^ gapBits units

/-- Doubles with all their significant bits are separated by the power of two that their step counts
are multiples of. -/
theorem gapBits_mul_pow {n bits : Nat} (hlt : n < 2 ^ precision)
    (hle : bits = 0 ∨ 2 ^ (precision - 1) ≤ n) : gapBits (n * 2 ^ bits) = bits := by
  apply Nat.le_antisymm
  · apply gapBits_le
    rw [Nat.pow_add]
    exact Nat.mul_lt_mul_of_pos_right hlt (Nat.two_pow_pos bits)
  · cases hle with
    | inl hzero => omega
    | inr hfull =>
        have hpos : n * 2 ^ bits ≠ 0 := by
          have hn : 0 < n := Nat.lt_of_lt_of_le (Nat.two_pow_pos _) hfull
          positivity
        have hlog : precision - 1 + bits ≤ Nat.log2 (n * 2 ^ bits) := by
          rw [Nat.le_log2 hpos, Nat.pow_add]
          exact Nat.mul_le_mul_right _ hfull
        simp only [gapBits, precision] at hlog ⊢
        omega

/-- A multiple of the distance of doubles that is even has an even significand, also if it is the
power of two beyond which the doubles are twice as far apart. -/
theorem even_significand {n bits : Nat} (heven : n % 2 = 0) (hlt : n ≤ 2 ^ precision)
    (hle : bits = 0 ∨ 2 ^ (precision - 1) ≤ n) : significand (n * 2 ^ bits) % 2 = 0 := by
  rw [significand]
  rcases Nat.lt_or_eq_of_le hlt with hless | hfull
  · rw [gapBits_mul_pow hless hle, Nat.mul_div_cancel _ (Nat.two_pow_pos bits)]
    exact heven
  · have hpower : n * 2 ^ bits = 2 ^ (precision - 1) * 2 ^ (bits + 1) := by
      rw [hfull, ← Nat.pow_add, ← Nat.pow_add]
      congr 1
      simp only [precision]
      omega
    have hgap : gapBits (2 ^ (precision - 1) * 2 ^ (bits + 1)) = bits + 1 :=
      gapBits_mul_pow (by decide) (Or.inr le_rfl)
    rw [hpower, hgap, Nat.mul_div_cancel _ (Nat.two_pow_pos _)]
    decide

/-! ## The nearest step count -/

/-- A step count is that of the double nearest to a number of steps.  If another double is as near,
it has an even significand. -/
structure IsNearestCount (units : Nat) (q : ℚ) : Prop where
  representable : Representable units
  near : ∀ other, Representable other → |(units : ℚ) - q| ≤ |(other : ℚ) - q|
  even : ∀ other, Representable other → other ≠ units → |(other : ℚ) - q| = |(units : ℚ) - q| →
    significand units % 2 = 0

/-- Distances between multiples are multiples of distances. -/
theorem abs_mul_sub {g : ℚ} (hg : 0 < g) (k q : ℚ) : |k * g - q| = |k - q / g| * g := by
  have hfactor : k * g - q = (k - q / g) * g := by
    field_simp
  rw [hfactor, abs_mul, abs_of_pos hg]

/-- The step count of a double that is no multiple of a power of two has fewer bits than the
multiples with all significant bits. -/
theorem lt_of_not_dvd {units bits : Nat} (h : Representable units) (hdvd : ¬ 2 ^ bits ∣ units) :
    units < 2 ^ (precision - 1 + bits) := by
  have hgap : gapBits units < bits := by
    by_contra hle
    exact hdvd ((Nat.pow_dvd_pow 2 (Nat.le_of_not_lt hle)).trans h)
  have hne : units ≠ 0 := by
    intro hzero
    exact hdvd (hzero ▸ Nat.dvd_zero _)
  rw [← Nat.log2_lt hne]
  simp only [gapBits, precision] at hgap ⊢
  omega

/-- Around a step count that is not small, doubles have all their significant bits. -/
theorem pow_le_of_gapBits {units : Nat} (h : gapBits units ≠ 0) :
    2 ^ (precision - 1 + gapBits units) ≤ units := by
  have hne : units ≠ 0 := by
    intro hzero
    subst hzero
    exact h (by simp [gapBits, precision])
  have hlog : precision - 1 + gapBits units = Nat.log2 units := by
    simp only [gapBits, precision] at h ⊢
    omega
  rw [hlog]
  exact Nat.log2_self_le hne

section Rounded

variable {n bits : Nat} {q : ℚ}

/-- A number that is rounded to a multiple of a power of two is half of it away at most. -/
theorem abs_rounded_sub_le (hhalf : |(n : ℚ) - q / 2 ^ bits| ≤ 1 / 2) :
    |((n * 2 ^ bits : Nat) : ℚ) - q| ≤ 1 / 2 * 2 ^ bits := by
  have hpos : (0 : ℚ) < 2 ^ bits := by positivity
  push_cast
  rw [abs_mul_sub hpos]
  exact mul_le_mul_of_nonneg_right hhalf hpos.le

/-- Other multiples of the power of two are half of it away at least. -/
theorem le_abs_multiple_sub (hhalf : |(n : ℚ) - q / 2 ^ bits| ≤ 1 / 2) {k : Nat} (hne : k ≠ n) :
    1 / 2 * 2 ^ bits ≤ |((k * 2 ^ bits : Nat) : ℚ) - q| := by
  have hpos : (0 : ℚ) < 2 ^ bits := by positivity
  push_cast
  rw [abs_mul_sub hpos]
  exact mul_le_mul_of_nonneg_right (half_le_abs_sub hhalf hne) hpos.le

/-- Doubles that are no multiples of the power of two are farther away, if the number is not below
all multiples with all significant bits. -/
theorem abs_rounded_sub_lt (hhalf : |(n : ℚ) - q / 2 ^ bits| ≤ 1 / 2)
    (hlarge : bits ≠ 0 → (2 : ℚ) ^ (precision - 1 + bits) ≤ q) {other : Nat}
    (hother : Representable other) (hdvd : ¬ 2 ^ bits ∣ other) :
    |((n * 2 ^ bits : Nat) : ℚ) - q| < |(other : ℚ) - q| := by
  have hbits : bits ≠ 0 := by
    intro hzero
    subst hzero
    exact hdvd (Nat.one_dvd other)
  have hbelow : (other : ℚ) < 2 ^ (precision - 1 + bits) := by
    exact_mod_cast lt_of_not_dvd hother hdvd
  have hpower : ((2 ^ (precision - 1) * 2 ^ bits : Nat) : ℚ) = 2 ^ (precision - 1 + bits) := by
    push_cast
    rw [pow_add]
  -- The least multiple with all significant bits lies between the other double and the number.
  have hbetween : |((2 ^ (precision - 1) * 2 ^ bits : Nat) : ℚ) - q| < |(other : ℚ) - q| := by
    have hq := hlarge hbits
    rw [hpower, abs_of_nonpos (by linarith), abs_of_neg (by linarith)]
    linarith
  by_cases hsame : 2 ^ (precision - 1) = n
  · rw [hsame] at hbetween
    exact hbetween
  · have hfar := le_abs_multiple_sub hhalf hsame
    have hnear := abs_rounded_sub_le hhalf
    linarith

/-- A number is rounded to the nearest double by rounding it to a multiple of a power of two, if
doubles of its size have all their significant bits or if the power is one. -/
theorem isNearestCount_of_rounded (hhalf : |(n : ℚ) - q / 2 ^ bits| ≤ 1 / 2)
    (htie : |(n : ℚ) - q / 2 ^ bits| = 1 / 2 → n % 2 = 0)
    (hlarge : bits ≠ 0 → (2 : ℚ) ^ (precision - 1 + bits) ≤ q) (hlt : n ≤ 2 ^ precision)
    (hle : bits = 0 ∨ 2 ^ (precision - 1) ≤ n) (hrepresentable : Representable (n * 2 ^ bits)) :
    IsNearestCount (n * 2 ^ bits) q := by
  have hnear := abs_rounded_sub_le hhalf
  refine ⟨hrepresentable, fun other hother => ?_, fun other hother hne hequal => ?_⟩
  · by_cases hdvd : 2 ^ bits ∣ other
    · obtain ⟨k, rfl⟩ := hdvd
      rw [Nat.mul_comm (2 ^ bits) k]
      by_cases hsame : k = n
      · rw [hsame]
      · exact hnear.trans (le_abs_multiple_sub hhalf hsame)
    · exact (abs_rounded_sub_lt hhalf hlarge hother hdvd).le
  · by_cases hdvd : 2 ^ bits ∣ other
    · obtain ⟨k, rfl⟩ := hdvd
      rw [Nat.mul_comm (2 ^ bits) k] at hne hequal
      have hother : k ≠ n := fun hsame => hne (by rw [hsame])
      have hfar := le_abs_multiple_sub hhalf hother
      rw [hequal] at hfar
      -- Two multiples that are as near are half of the power away, which is a tie.
      have hpos : (0 : ℚ) < 2 ^ bits := by positivity
      have hhalfway : |(n : ℚ) - q / 2 ^ bits| * 2 ^ bits = 1 / 2 * 2 ^ bits := by
        rw [← abs_mul_sub hpos]
        push_cast at hnear hfar
        exact le_antisymm hnear hfar
      exact even_significand (htie (mul_right_cancel₀ hpos.ne' hhalfway)) hlt hle
    · exact absurd hequal (abs_rounded_sub_lt hhalf hlarge hother hdvd).ne'

end Rounded

/-- A number is not rounded below its whole part. -/
theorem div_le_roundHalfEven (num den : Nat) : num / den ≤ roundHalfEven num den := by
  simp only [roundHalfEven]
  split_ifs <;> omega

/-- Rounding yields the nearest step count. -/
theorem isNearestCount_nearest {den : Nat} (hden : 0 < den) (num : Nat) :
    IsNearestCount (nearest num den) ((num : ℚ) / den) := by
  have hrepresentable := representable_nearest num den
  have hgap : 0 < den * 2 ^ gapBits (num / den) := Nat.mul_pos hden (Nat.two_pow_pos _)
  have hspec := roundHalfEven_spec hgap num
  have hquotient : num / (den * 2 ^ gapBits (num / den)) < 2 ^ precision := by
    rw [← Nat.div_div_eq_div_mul]
    exact div_gap_lt _
  have hup := roundHalfEven_le num (den * 2 ^ gapBits (num / den))
  have hdown := div_le_roundHalfEven num (den * 2 ^ gapBits (num / den))
  have hlarge : gapBits (num / den) ≠ 0 → 2 ^ (precision - 1 + gapBits (num / den)) ≤ num / den :=
    pow_le_of_gapBits
  simp only [nearest, Nat.pow_eq] at hrepresentable ⊢
  generalize gapBits (num / den) = bits at *
  push_cast at hspec
  rw [← div_div] at hspec
  refine isNearestCount_of_rounded hspec.1 hspec.2 ?_ (by omega) ?_ hrepresentable
  · intro hbits
    have hnum : 2 ^ (precision - 1 + bits) * den ≤ num :=
      (Nat.le_div_iff_mul_le hden).mp (hlarge hbits)
    rw [le_div_iff₀ (by exact_mod_cast hden)]
    exact_mod_cast hnum
  · by_cases hbits : bits = 0
    · exact Or.inl hbits
    · have hfull : 2 ^ (precision - 1) ≤ num / (den * 2 ^ bits) := by
        rw [← Nat.div_div_eq_div_mul, Nat.le_div_iff_mul_le (Nat.two_pow_pos bits), ← Nat.pow_add]
        exact hlarge hbits
      exact Or.inr (hfull.trans hdown)

/-! ## The nearest double -/

/-- The number that a double denotes, without its sign. -/
def magnitude (d : Double) : ℚ :=
  d.units / 2 ^ unitBits

/-- The number that a double denotes. -/
def toRat (d : Double) : ℚ :=
  signed d.negative d.magnitude

/-- A double is the one nearest to a number: no other is nearer, and if another one is as near, it
has an even significand. -/
structure IsNearest (d : Double) (x : ℚ) : Prop where
  near : ∀ other : Double, Representable other.units → |d.toRat - x| ≤ |other.toRat - x|
  even : ∀ other : Double, Representable other.units → other.toRat ≠ d.toRat →
    |other.toRat - x| = |d.toRat - x| → significand d.units % 2 = 0

/-- A magnitude is not negative. -/
theorem magnitude_nonneg (d : Double) : 0 ≤ d.magnitude := by
  rw [magnitude]
  positivity

/-- The distance of a double from a number is the one of its step count from a number of steps. -/
theorem abs_magnitude_sub (d : Double) (x : ℚ) :
    |d.magnitude - x| = |(d.units : ℚ) - x * 2 ^ unitBits| / 2 ^ unitBits := by
  have hpos : (0 : ℚ) < 2 ^ unitBits := by positivity
  have hfactor : d.magnitude - x = (d.units - x * 2 ^ unitBits) / 2 ^ unitBits := by
    rw [magnitude]
    field_simp
  rw [hfactor, abs_div, abs_of_pos hpos]

/-- No double is closer to a number than some double with the same sign as the number, and if one is
as close, it is the same. -/
theorem exists_units_abs_sub_le (negative : Bool) {x : ℚ} (hx : 0 ≤ x) {other : Double}
    (hother : Representable other.units) :
    ∃ units, Representable units ∧
      |(units : ℚ) - x * 2 ^ unitBits| / 2 ^ unitBits ≤ |other.toRat - signed negative x| ∧
      (|other.toRat - signed negative x| ≤ |(units : ℚ) - x * 2 ^ unitBits| / 2 ^ unitBits →
        other.toRat = signed negative (units / 2 ^ unitBits)) := by
  by_cases hsign : other.negative = negative
  · refine ⟨other.units, hother, ?_, fun _ => ?_⟩
    · rw [toRat, hsign, abs_signed_sub_signed, abs_magnitude_sub]
    · rw [toRat, hsign, magnitude]
  · have hdistance : |other.toRat - signed negative x| = other.magnitude + x :=
      abs_signed_sub_signed_of_ne hsign other.magnitude_nonneg hx
    have hzero : |((0 : Nat) : ℚ) - x * 2 ^ unitBits| / 2 ^ unitBits = x := by
      rw [Nat.cast_zero, zero_sub, abs_neg, abs_of_nonneg (by positivity)]
      field_simp
    refine ⟨0, representable_zero, ?_, ?_⟩
    · rw [hzero, hdistance]
      exact le_add_of_nonneg_left other.magnitude_nonneg
    · intro hle
      rw [hzero, hdistance] at hle
      have hnone : other.magnitude = 0 := le_antisymm (by linarith) other.magnitude_nonneg
      simp [toRat, hnone, signed]

/-- With the sign of a number, the nearest step count is that of the nearest double. -/
theorem IsNearestCount.isNearest {units : Nat} {x : ℚ} (hx : 0 ≤ x)
    (h : IsNearestCount units (x * 2 ^ unitBits)) (negative : Bool) :
    IsNearest ⟨negative, units⟩ (signed negative x) := by
  have hpos : (0 : ℚ) < 2 ^ unitBits := by positivity
  have hdistance : |toRat ⟨negative, units⟩ - signed negative x| =
      |(units : ℚ) - x * 2 ^ unitBits| / 2 ^ unitBits := by
    rw [toRat, abs_signed_sub_signed, abs_magnitude_sub]
  constructor
  case near =>
    intro other hother
    obtain ⟨count, hcount, hle, -⟩ := exists_units_abs_sub_le negative hx hother
    rw [hdistance]
    exact (div_le_div_of_nonneg_right (h.near count hcount) hpos.le).trans hle
  case even =>
    intro other hother hne hequal
    obtain ⟨count, hcount, hle, hsame⟩ := exists_units_abs_sub_le negative hx hother
    rw [hequal, hdistance] at hle hsame
    have hnear := h.near count hcount
    have hother := hsame (div_le_div_of_nonneg_right hnear hpos.le)
    have hcounts : count ≠ units := by
      intro heq
      rw [heq] at hother
      exact hne hother
    exact h.even count hcount hcounts
      (le_antisymm ((div_le_div_iff_of_pos_right hpos).mp hle) hnear)

end Double
end Casebook
