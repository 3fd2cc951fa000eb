/-!
# Decimal numerals

A number is written as a sign, the digits before the point and, if the writer chose to give
them, the digits after the point and a signed power of ten.  A numeral keeps all of that: two
numerals that denote the same number stay different when they are spelt differently.

Main definitions:

- {lit}`Numeral`: the parts of a written number.
- {lit}`Numeral.text`: the written form; an exponent always shows its sign.
- {lit}`Numeral.isInteger`: no point and no exponent was written.
- {lit}`Numeral.toInt`: the integer that the digits before the point denote.
-/

namespace Casebook

/-- A decimal digit. -/
abbrev Digit := Fin 10

namespace Digit

/-- The digit zero. -/
def zero : Digit := 0

/-- The character that writes a digit. -/
def toChar (d : Digit) : Char :=
  Char.ofNat ('0'.toNat + d.val)

/-- The digit that a character writes, if it is one of the ten. -/
def ofChar? (c : Char) : Option Digit :=
  if h : '0'.toNat ≤ c.toNat ∧ c.toNat - '0'.toNat < 10 then
    some ⟨c.toNat - '0'.toNat, h.2⟩
  else
    none

/-- Writing a digit and reading the character gives the digit back. -/
@[simp]
theorem ofChar?_toChar (d : Digit) : ofChar? d.toChar = some d := by
  revert d
  decide

/-- The number that a list of digits denotes, the most significant digit first. -/
def value (digits : List Digit) : Nat :=
  digits.foldl (fun total d => 10 * total + d.val) 0

/-- The characters that write a list of digits. -/
def chars (digits : List Digit) : List Char :=
  digits.map toChar

/-- The digits of a number, at most {lit}`fuel` of them, put in front of {lit}`tail`. -/
def prepend (fuel n : Nat) (tail : List Digit) : List Digit :=
  match fuel with
  | 0 => tail
  | fuel + 1 =>
      let tail := ⟨n % 10, Nat.mod_lt n (by decide)⟩ :: tail
      if n < 10 then tail else prepend fuel (n / 10) tail

/-- The digits of a number without leading zeros; zero is the single digit 0. -/
def ofNat (n : Nat) : List Digit :=
  prepend (n + 1) n []

/-- The characters that write a number. -/
def charsOfNat (n : Nat) : List Char :=
  chars (ofNat n)

/-- The text of a number. -/
def textOfNat (n : Nat) : String :=
  String.ofList (charsOfNat n)

end Digit

/-- A power of ten as it is written: its sign and its digits. -/
structure Exponent where
  negative : Bool
  digits : List Digit
  deriving DecidableEq, Repr, Inhabited

namespace Exponent

/-- The power of ten that is meant. -/
def toInt (e : Exponent) : Int :=
  if e.negative then -(Digit.value e.digits : Int) else Digit.value e.digits

/-- The exponent that writes a power of ten. -/
def ofInt (power : Int) : Exponent :=
  ⟨decide (power < 0), Digit.ofNat power.natAbs⟩

/-- The written form: the mark, the sign, whichever it is, and the digits. -/
def chars (e : Exponent) : List Char :=
  'e' :: (if e.negative then '-' else '+') :: Digit.chars e.digits

end Exponent

/-- A number as it is written. -/
structure Numeral where
  /-- A minus sign stands in front. -/
  negative : Bool
  /-- The digits before the point. -/
  whole : List Digit
  /-- The digits after the point, if a point is written. -/
  fraction : Option (List Digit)
  /-- The power of ten, if one is written. -/
  exponent : Option Exponent
  deriving DecidableEq, Repr, Inhabited

namespace Numeral

/-- Neither a point nor an exponent is written. -/
def isInteger (n : Numeral) : Bool :=
  n.fraction.isNone && n.exponent.isNone

/-- The integer denoted by the sign and the digits before the point. -/
def toInt (n : Numeral) : Int :=
  if n.negative then -(Digit.value n.whole : Int) else Digit.value n.whole

/-- All digits, those before the point first. -/
def digits (n : Numeral) : List Digit :=
  n.whole ++ n.fraction.getD []

/-- The power of ten by which the number made of all digits is to be multiplied. -/
def scale (n : Numeral) : Int :=
  (n.exponent.map Exponent.toInt).getD 0 - (n.fraction.getD []).length

/-- The characters of the written form. -/
def chars (n : Numeral) : List Char :=
  (if n.negative then ['-'] else []) ++ Digit.chars n.whole
    ++ (n.fraction.map fun ds => '.' :: Digit.chars ds).getD []
    ++ (n.exponent.map Exponent.chars).getD []

/-- The written form. -/
def text (n : Numeral) : String :=
  String.ofList n.chars

/-- The numeral that writes an integer. -/
def ofInt (z : Int) : Numeral :=
  ⟨decide (z < 0), Digit.ofNat z.natAbs, none, none⟩

/-- An integer is written with neither a point nor an exponent. -/
@[simp]
theorem isInteger_ofInt (z : Int) : (ofInt z).isInteger = true :=
  rfl

end Numeral

end Casebook
