import Casebook.Number.Double

/-!
# The shortest decimal that reads back

A double is written with the fewest digits that read back to it, and of those the ones nearest to
it.  The digits are found on ever finer decimal grids: on each grid only the two neighbours of the
double can qualify.

Main definitions:

- {lit}`Shortest.decimal`: the coefficient and the power of ten of the shortest decimal.
- {lit}`NumberLayout`: which exponents are written positionally.
- {lit}`Double.numeral`: the written form of a double.
-/

namespace Casebook

namespace Shortest

/-- A decimal number: a coefficient and a power of ten. -/
structure Decimal where
  coefficient : Nat
  power : Int
  deriving DecidableEq, Repr, Inhabited

namespace Decimal

/-- The step count of the double that a decimal reads as. -/
def units (d : Decimal) : Nat :=
  Double.nearestDecimal d.coefficient d.power

end Decimal

/-- The number of decimal digits of a positive number. -/
def digitCount (n : Nat) : Nat :=
  (Digit.ofNat n).length

/-- The power of ten of the leading digit of {lit}`units` steps, for a positive step count.
Four hundred decimal places are enough to reach the leading digit of the least step. -/
def leadingPower (units : Nat) : Int :=
  (digitCount (units * Nat.pow 10 400 / Nat.pow 2 Double.unitBits) : Int) - 401

/-- A step count as a fraction in units of a power of ten: numerator and denominator. -/
def scaled (units : Nat) (power : Int) : Nat × Nat :=
  if 0 ≤ power then
    (units, Nat.pow 2 Double.unitBits * Nat.pow 10 power.toNat)
  else
    (units * Nat.pow 10 (-power).toNat, Nat.pow 2 Double.unitBits)

/-- The neighbours of a step count on the grid of multiples of a power of ten, the nearer one
first; of two equally near ones the even one comes first. -/
def neighbours (units : Nat) (power : Int) : List Decimal :=
  let (num, den) := scaled units power
  let below := num / den
  let twice := 2 * (num % den)
  if twice = 0 then
    [⟨below, power⟩]
  else if twice < den ∨ (twice = den ∧ below % 2 = 0) then
    [⟨below, power⟩, ⟨below + 1, power⟩]
  else
    [⟨below + 1, power⟩, ⟨below, power⟩]

/-- The double's own value as a decimal: a step is 5¹⁰⁷⁴ units of 10⁻¹⁰⁷⁴. -/
def exact (units : Nat) : Decimal :=
  ⟨units * Nat.pow 5 Double.unitBits, -Double.unitBits⟩

/-- The candidates for the decimal form of a step count, those with fewer digits first.  The first
grid lies above the leading digit: its only positive candidate is the next power of ten.  Seventeen
digits always suffice. -/
def candidates (units : Nat) : List Decimal :=
  let top := leadingPower units + 1
  (List.range 18).flatMap fun (n : Nat) => neighbours units (top - n)

/-- The first candidate that reads back, and the exact value if there were none. -/
def decimal (units : Nat) : Decimal :=
  ((candidates units).find? fun d => d.units == units).getD (exact units)

end Shortest

/-- When a number is written positionally: the power of ten of its leading digit is at least
{lit}`least` and below {lit}`bound`. -/
structure NumberLayout where
  least : Int
  bound : Int
  deriving DecidableEq, Repr

namespace NumberLayout

/-- Numbers from 10⁻⁵ up to but not including 10¹⁶ are written positionally. -/
def standard : NumberLayout :=
  ⟨-5, 16⟩

/-- The digits of a coefficient with the point set after the first {lit}`count` of them; the digits
are extended by zeros where they end before the point, and a point is always followed by a digit. -/
def positional (negative : Bool) (digits : List Digit) (count : Nat) : Numeral :=
  let whole := digits.take count ++ List.replicate (count - digits.length) Digit.zero
  let fraction := digits.drop count
  ⟨negative, whole, some (if fraction.isEmpty then [Digit.zero] else fraction), none⟩

/-- One digit before the point, the others after it, and a power of ten. -/
def scientific (negative : Bool) (digits : List Digit) (leading : Int) : Numeral :=
  let fraction := digits.drop 1
  ⟨negative, digits.take 1, if fraction.isEmpty then none else some fraction,
    some (Exponent.ofInt leading)⟩

/-- The numeral for a decimal number in this layout. -/
def write (layout : NumberLayout) (negative : Bool) (d : Shortest.Decimal) : Numeral :=
  let digits := Digit.ofNat d.coefficient
  let leading := d.power + digits.length - 1
  if leading < layout.least ∨ layout.bound ≤ leading then
    scientific negative digits leading
  else if 0 ≤ leading then
    positional negative digits (leading.toNat + 1)
  else
    ⟨negative, [Digit.zero], some (List.replicate ((-leading).toNat - 1) Digit.zero ++ digits), none⟩

end NumberLayout

namespace Double

/-- The written form of a double. -/
def numeral (d : Double) : Numeral :=
  if d.units = 0 then ⟨d.negative, [Digit.zero], some [Digit.zero], none⟩
  else NumberLayout.standard.write d.negative (Shortest.decimal d.units)

/-- The text of a double. -/
def text (d : Double) : String :=
  d.numeral.text

/-- Zero is written with one digit on either side of the point. -/
example : (Double.zero true).text = "-0.0" := by
  decide

/-- One is written positionally, and two to the power of 54 with an exponent. -/
example : (Double.text ⟨false, 2 ^ 1074⟩, Double.text ⟨false, 2 ^ 1128⟩) =
    ("1.0", "1.8014398509481984e+16") := by
  decide +kernel

/-- The least positive double takes one digit. -/
example : Double.text ⟨false, 1⟩ = "5e-324" := by
  decide +kernel

end Double

end Casebook
