import Casebook.Json.Token
import Casebook.Text.Quoted
import Mathlib.Algebra.Order.Ring.Nat
import Mathlib.Tactic.SplitIfs

/-!
# Quoted text can be read back

Between quotes a character is shown as itself, by a short escape or by its code point.  Whichever
it is, the way in which it is shown tells where it ends, and no character is shown by a quotation
mark alone.  A quoted text therefore ends at its first mark without a backslash, and can be read back
from what is shown, whatever follows.  This does not depend on which characters are visible.

Main definitions:

- {lit}`Text.shown?`: the character that is shown first.

Main results:

- Theorem {lit}`Text.hexValue_hexDigits`: the hexadecimal digits of a number denote it.
- Theorem {lit}`Text.shown?_escapedVisibly`: a character is read back from how it is shown.
- Theorem {lit}`Text.quotedChars_append_inj`: a quoted text at the beginning of some characters is
  determined by them, and so is what follows it.
-/

namespace Casebook
namespace Text

/-! ## Hexadecimal digits -/

/-- The number that hexadecimal digits after a number denote together with it. -/
def hexValueAfter (total : Nat) (digits : List Char) : Nat :=
  digits.foldl (fun total c => 16 * total + (Json.Token.hexDigit? c).getD 0) total

/-- A hexadecimal digit denotes the number that it is written for. -/
theorem hexDigit?_hexChar {n : Nat} (h : n < 16) : Json.Token.hexDigit? (hexChar n) = some n := by
  revert h
  revert n
  decide

/-- A digit moves the number in front of it to the left. -/
theorem hexValueAfter_cons (total : Nat) {n : Nat} (h : n < 16) (digits : List Char) :
    hexValueAfter total (hexChar n :: digits) = hexValueAfter (16 * total + n) digits := by
  rw [hexValueAfter, List.foldl_cons, hexDigit?_hexChar h]
  rfl

/-- The digits of a number in front of others stand for the number. -/
theorem hexValueAfter_prependHex {fuel n : Nat} (h : n < 16 ^ fuel) (tail : List Char) :
    hexValueAfter 0 (prependHex fuel n tail) = hexValueAfter n tail := by
  induction fuel generalizing n tail with
  | zero =>
      have hzero : n = 0 := by simpa using h
      rw [prependHex, hzero]
  | succ fuel ih =>
      have hdigit : n % 16 < 16 := Nat.mod_lt n (by decide)
      rw [prependHex]
      split
      · next hsmall =>
          rw [hexValueAfter_cons 0 hdigit, Nat.mod_eq_of_lt hsmall, Nat.mul_zero, Nat.zero_add]
      · have hrest : n / 16 < 16 ^ fuel := by
          rw [Nat.pow_succ'] at h
          exact Nat.div_lt_of_lt_mul h
        rw [ih hrest, hexValueAfter_cons _ hdigit, Nat.div_add_mod]

/-- The number that hexadecimal digits denote. -/
def hexValue (digits : List Char) : Nat :=
  hexValueAfter 0 digits

/-- The hexadecimal digits of a code point denote it. -/
theorem hexValue_hexDigits (c : Char) : hexValue (hexDigits c.toNat) = c.toNat :=
  hexValueAfter_prependHex (UInt32.toNat_lt c.val) []

/-- No hexadecimal digit is a closing brace. -/
theorem ne_brace_of_mem_prependHex {fuel n : Nat} {tail : List Char}
    (htail : ∀ c ∈ tail, c ≠ '\x7d') : ∀ c ∈ prependHex fuel n tail, c ≠ '\x7d' := by
  induction fuel generalizing n tail with
  | zero => exact htail
  | succ fuel ih =>
      have hdigit : hexChar (n % 16) ≠ '\x7d' := by
        have hchar : ∀ d, d < 16 → hexChar d ≠ '\x7d' := by decide
        exact hchar (n % 16) (Nat.mod_lt n (by decide))
      have hlater : ∀ c ∈ hexChar (n % 16) :: tail, c ≠ '\x7d' :=
        List.forall_mem_cons.mpr ⟨hdigit, htail⟩
      rw [prependHex]
      split
      · exact hlater
      · exact ih hlater

/-- The hexadecimal digits of a number hold no closing brace. -/
theorem ne_brace_of_mem_hexDigits (n : Nat) : ∀ c ∈ hexDigits n, c ≠ '\x7d' :=
  ne_brace_of_mem_prependHex (by simp)

/-! ## Single characters -/

/-- The character that a letter after a backslash stands for. -/
def unescaped? : Char → Option Char
  | '"' => some '"'
  | '\\' => some '\\'
  | 'n' => some '\n'
  | 'r' => some '\r'
  | 't' => some '\t'
  | '0' => some '\x00'
  | _ => none

/-- The character with the code point that is given up to a closing brace, and what follows. -/
def ofCodePoint (s : List Char) : Char × List Char :=
  (Char.ofNat (hexValue (s.takeWhile (· ≠ '\x7d'))), (s.dropWhile (· ≠ '\x7d')).tail)

/-- The character that is shown first, and what follows.  A quotation mark without a backslash shows
none. -/
def shown? : List Char → Option (Char × List Char)
  | '\\' :: 'u' :: '\x7b' :: rest => some (ofCodePoint rest)
  | '\\' :: letter :: rest => (unescaped? letter).map fun c => (c, rest)
  | '"' :: _ => none
  | c :: rest => some (c, rest)
  | [] => none

/-- A character is read back from its code point. -/
theorem ofCodePoint_hexDigits (c : Char) (rest : List Char) :
    ofCodePoint (hexDigits c.toNat ++ '\x7d' :: rest) = (c, rest) := by
  have hdigits : ∀ d ∈ hexDigits c.toNat, decide (d ≠ '\x7d') = true :=
    fun d hmem => decide_eq_true (ne_brace_of_mem_hexDigits c.toNat d hmem)
  have htake : (hexDigits c.toNat ++ '\x7d' :: rest).takeWhile (· ≠ '\x7d') =
      hexDigits c.toNat := by
    rw [List.takeWhile_append_of_pos hdigits]
    simp
  have hdrop : (hexDigits c.toNat ++ '\x7d' :: rest).dropWhile (· ≠ '\x7d') = '\x7d' :: rest := by
    rw [List.dropWhile_append_of_pos hdigits]
    simp
  rw [ofCodePoint, htake, hdrop, hexValue_hexDigits, Char.ofNat_toNat, List.tail_cons]

/-- A character is read back from how it is shown. -/
theorem shown?_escapedVisibly (c : Char) (rest : List Char) :
    shown? (escapedVisibly c ++ rest) = some (c, rest) := by
  unfold escapedVisibly
  split_ifs with hquote hslash hline hreturn htab hnull hvisible
  · rw [hquote]
    rfl
  · rw [hslash]
    rfl
  · rw [hline]
    rfl
  · rw [hreturn]
    rfl
  · rw [htab]
    rfl
  · rw [hnull]
    rfl
  · simp [shown?, hslash]
  · have hcode := ofCodePoint_hexDigits c rest
    simp [shown?, hcode]

/-! ## Whole texts -/

/-- Shown characters up to a quotation mark are determined, and so is what follows the mark. -/
theorem flatMap_escapedVisibly_append_inj {s t rest tail : List Char}
    (h : s.flatMap escapedVisibly ++ '"' :: rest = t.flatMap escapedVisibly ++ '"' :: tail) :
    s = t ∧ rest = tail := by
  have hend : ∀ following, shown? ('"' :: following) = none := fun _ => rfl
  induction s generalizing t with
  | nil =>
      cases t with
      | nil => exact ⟨rfl, (List.cons.inj h).2⟩
      | cons d t =>
          have hread := hend rest
          rw [List.flatMap_nil, List.nil_append, List.flatMap_cons, List.append_assoc] at h
          rw [h, shown?_escapedVisibly] at hread
          contradiction
  | cons c s ih =>
      have hread := shown?_escapedVisibly c (s.flatMap escapedVisibly ++ '"' :: rest)
      rw [List.flatMap_cons, List.append_assoc] at h
      rw [h] at hread
      cases t with
      | nil =>
          rw [List.flatMap_nil, List.nil_append, hend] at hread
          contradiction
      | cons d t =>
          rw [List.flatMap_cons, List.append_assoc, shown?_escapedVisibly, Option.some.injEq,
            Prod.mk.injEq] at hread
          obtain ⟨hsame, hrest⟩ := ih hread.2.symm
          exact ⟨by rw [hread.1, hsame], hrest⟩

/-- A quoted text at the beginning of some characters is determined by them, and so is what follows
it. -/
theorem quotedChars_append_inj {s t : String} {rest tail : List Char}
    (h : quotedChars s ++ rest = quotedChars t ++ tail) : s = t ∧ rest = tail := by
  simp only [quotedChars, List.cons_append, List.append_assoc, List.nil_append, List.cons.injEq,
    true_and] at h
  obtain ⟨hsame, hrest⟩ := flatMap_escapedVisibly_append_inj h
  exact ⟨String.toList_injective hsame, hrest⟩

end Text
end Casebook
