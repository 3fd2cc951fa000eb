import Casebook.Text.LetterCase

/-!
# Letter case on both sides of a separator

The lower-case form of a text depends on the neighbours of its letters in one place only: a capital
sigma looks for a letter before it and after it, past characters that are case-ignorable.  A
character that has no case and is not ignorable ends the search, so that what stands on one side of
it has no influence on the other side.

Main definitions:

- {lit}`Text.Separates`: a character has no case, is not passed over, and is its own lower-case
  form.

Main results:

- Theorem {lit}`Text.nextIsCased_append`: the search for a letter ends at a separator.
- Theorem {lit}`Text.lowercase_append`: the two sides of a separator are put in lower case by
  themselves.
-/

namespace Casebook
namespace Text

/-- A character has no case, is not passed over when the neighbours of a letter are looked for, and
is its own lower-case form. -/
structure Separates (c : Char) : Prop where
  uncased : isCased c = false
  notIgnorable : isCaseIgnorable c = false
  lower_eq : lower c = [c]
  ne_sigma : c ≠ capitalSigma

/-- A hyphen separates. -/
theorem separates_hyphen : Separates '-' := by
  constructor <;> decide +kernel

/-- A blank separates. -/
theorem separates_blank : Separates ' ' := by
  constructor <;> decide +kernel

section

variable {c : Char} (h : Separates c)

include h

/-- The search for a letter ends at a separator. -/
theorem nextIsCased_append (s t : List Char) :
    nextIsCased (s ++ c :: t) = nextIsCased s := by
  induction s with
  | nil => simp [nextIsCased, h.notIgnorable, h.uncased]
  | cons d s ih =>
      unfold nextIsCased at ih ⊢
      cases hd : isCaseIgnorable d with
      | true => simpa [hd] using ih
      | false => simp [hd]

/-- What stands before a separator has no influence on the sigmas after it. -/
theorem lowerSigma_append_before (before earlier after : List Char) :
    lowerSigma (before ++ c :: earlier) after = lowerSigma before after := by
  rw [lowerSigma, lowerSigma, nextIsCased_append h]

/-- What stands after a separator has no influence on the sigmas before it. -/
theorem lowerSigma_append_after (before after later : List Char) :
    lowerSigma before (after ++ c :: later) = lowerSigma before after := by
  rw [lowerSigma, lowerSigma, nextIsCased_append h]

/-- A text after a separator is put in lower case as if nothing stood before the separator. -/
theorem lowercaseAfter_append_before (before earlier s : List Char) :
    lowercaseAfter (before ++ c :: earlier) s = lowercaseAfter before s := by
  induction s generalizing before with
  | nil => rfl
  | cons d s ih =>
      have hrest := ih (d :: before)
      rw [List.cons_append] at hrest
      rw [lowercaseAfter, lowercaseAfter, hrest, lowerSigma_append_before h]

/-- A text before a separator is put in lower case as if nothing stood after the separator. -/
theorem lowercaseAfter_append (before s t : List Char) :
    lowercaseAfter before (s ++ c :: t) = lowercaseAfter before s ++ c :: lowercase t := by
  induction s generalizing before with
  | nil =>
      have hafter : lowercaseAfter (c :: before) t = lowercase t :=
        lowercaseAfter_append_before h [] before t
      simp [lowercaseAfter, h.ne_sigma, h.lower_eq, hafter]
  | cons d s ih =>
      rw [List.cons_append, lowercaseAfter, lowercaseAfter, ih, lowerSigma_append_after h,
        List.append_assoc]

/-- The two sides of a separator are put in lower case by themselves. -/
theorem lowercase_append (s t : List Char) :
    lowercase (s ++ c :: t) = lowercase s ++ c :: lowercase t :=
  lowercaseAfter_append h [] s t

end

end Text
end Casebook
