import Casebook.Number.Numeral

/-!
# Finite 64-bit floating-point numbers

Every finite double is a whole number of steps of 2⁻¹⁰⁷⁴, the least positive one.  A double is
therefore kept as its sign and that number of steps, so that all arithmetic on it is exact
arithmetic on natural numbers.

Main definitions:

- {lit}`Double`: a sign and a number of steps.
- {lit}`Double.nearest`: the step count of the double nearest to a fraction, ties to even.
- {lit}`Double.ofNumeral?`: the double that a numeral denotes, if it is within the finite range.
-/

namespace Casebook

/-- A finite double: {lit}`units` steps of 2⁻¹⁰⁷⁴, counted away from zero. -/
structure Double where
  negative : Bool
  units : Nat
  deriving DecidableEq, Repr, Inhabited

namespace Double

/-- The number of significant bits. -/
def precision : Nat := 53

/-- One is two to this power of steps. -/
def unitBits : Nat := 1074

/-- The least step count beyond the finite range: 2¹⁰²⁴ in steps. -/
def limit : Nat := Nat.pow 2 2098

/-- A double from its sign and its step count. -/
def zero (negative : Bool) : Double :=
  ⟨negative, 0⟩

/-- The whole number nearest to {lit}`num / den`; a half goes to the even neighbour. -/
def roundHalfEven (num den : Nat) : Nat :=
  let quotient := num / den
  let twice := 2 * (num % den)
  if twice < den then quotient
  else if den < twice then quotient + 1
  else if quotient % 2 = 0 then quotient
  else quotient + 1

/-- The power of two that separates neighbouring doubles around a step count. -/
def gapBits (units : Nat) : Nat :=
  Nat.log2 units + 1 - precision

/-- The step count of the double nearest to {lit}`num / den` steps; a half goes to the even
neighbour. -/
def nearest (num den : Nat) : Nat :=
  let gap := Nat.pow 2 (gapBits (num / den))
  roundHalfEven num (den * gap) * gap

/-- The step count of the double nearest to {lit}`coefficient * 10 ^ power`. -/
def nearestDecimal (coefficient : Nat) (power : Int) : Nat :=
  if 0 ≤ power then
    nearest (coefficient * Nat.pow 10 power.toNat * Nat.pow 2 unitBits) 1
  else
    nearest (coefficient * Nat.pow 2 unitBits) (Nat.pow 10 (-power).toNat)

/-- The double nearest to the number that a numeral denotes, unless that number rounds beyond the
finite range.  Two bounds keep the arithmetic small: a number of at least 10³¹⁰ is out of range,
and one below 10⁻³³⁰ rounds to zero. -/
def ofNumeral? (n : Numeral) : Option Double :=
  let coefficient := Digit.value n.digits
  if coefficient = 0 then
    some (zero n.negative)
  else if 310 ≤ n.scale then
    none
  else if n.scale + n.digits.length ≤ -330 then
    some (zero n.negative)
  else
    let units := nearestDecimal coefficient n.scale
    if units < limit then some ⟨n.negative, units⟩ else none

/-- Two doubles are numerically equal: zero has one value whatever its sign. -/
def same (a b : Double) : Bool :=
  a.units == b.units && (a.units == 0 || a.negative == b.negative)

end Double

end Casebook
