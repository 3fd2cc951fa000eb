/-!
# Hexadecimal digits

Main definitions:

- {lit}`Text.hexChar`: the character of one digit.
- {lit}`Text.hexDigits`: the digits of a code point, in lower case and without leading zeros.
-/

namespace Casebook
namespace Text

/-- The character of a hexadecimal digit, a number below sixteen. -/
def hexChar (n : Nat) : Char :=
  if n < 10 then Char.ofNat ('0'.toNat + n) else Char.ofNat ('a'.toNat + (n - 10))

/-- The hexadecimal digits of a number, at most {lit}`fuel` of them, put in front of
{lit}`tail`. -/
def prependHex (fuel n : Nat) (tail : List Char) : List Char :=
  match fuel with
  | 0 => tail
  | fuel + 1 =>
      let tail := hexChar (n % 16) :: tail
      if n < 16 then tail else prependHex fuel (n / 16) tail

/-- The hexadecimal digits of a number below 16⁸, without leading zeros. -/
def hexDigits (n : Nat) : List Char :=
  prependHex 8 n []

end Text
end Casebook
