import Casebook.Proofs.Text.CaseTables

/-!
# Texts in lower case

A lower-case form consists of characters that are their own lower-case forms.  For the long forms
and the two forms of the capital sigma this is a matter of a few characters; for the ranges it is
checked of every two of them that the one covers no form of the other.  A text of such characters
is its own lower-case form whatever its characters have as neighbours, since a text without capital
sigmas never looks at them.

Main definitions:

- {lit}`Text.IsSettled`: a character is its own lower-case form.

Main results:

- Theorem {lit}`Text.isSettled_of_mem_lower`: the lower-case form of a character is settled.
- Theorem {lit}`Text.isSettled_of_mem_lowercaseAfter`: so is the lower-case form of a text.
- Theorem {lit}`Text.lowercase_eq_self_iff`: which texts are their own lower-case forms.
-/

namespace Casebook
namespace Text

/-- A character is its own lower-case form. -/
def IsSettled (c : Char) : Prop :=
  lower c = [c]

instance : DecidablePred IsSettled := fun c =>
  inferInstanceAs (Decidable (lower c = [c]))

/-! ## Forms from the tables -/

/-- The long lower-case forms consist of settled characters. -/
theorem lowerExpansions_settled :
    ∀ entry ∈ lowerExpansions, ∀ code ∈ entry.2, IsSettled (Char.ofNat code) := by
  decide +kernel

/-- The lower-case forms of every range are code points of characters. -/
theorem lowerRanges_valid :
    ∀ range ∈ lowerRanges, 0 ≤ (range.first : Int) + range.offset ∧
      (range.apply range.last < 0xD800 ∨
        0xDFFF < range.apply range.first ∧ range.apply range.last < 0x110000) := by
  decide +kernel

/-- No form from a range has a long form. -/
theorem lowerRanges_avoid_lowerExpansions :
    ∀ range ∈ lowerRanges, ∀ entry ∈ lowerExpansions,
      entry.1 < range.apply range.first ∨ range.apply range.last < entry.1 := by
  decide +kernel

/-- No form from a range is covered by a range. -/
theorem lowerRanges_avoid_lowerRanges :
    (lowerRanges.all fun range => lowerRanges.all range.formsAvoid) = true := by
  decide +kernel

/-- A form from a range is settled. -/
theorem isSettled_apply {range : CaseRange} {code : Nat} (hrange : range ∈ lowerRanges)
    (hcovers : range.covers code = true) : IsSettled (Char.ofNat (range.apply code)) := by
  obtain ⟨hstart, hvalid⟩ := lowerRanges_valid range hrange
  obtain ⟨hfirst, hlast⟩ := CaseRange.bounds_of_covers hcovers
  have hlow := range.apply_le_apply hfirst
  have hhigh := range.apply_le_apply hlast
  have hcode := toNat_ofNat_of_valid hvalid hlow hhigh
  apply otherForm_eq_self
  · intro entry hentry
    have hclear := lowerRanges_avoid_lowerExpansions range hrange entry hentry
    omega
  · intro other hother
    have hall := List.all_eq_true.mp lowerRanges_avoid_lowerRanges range hrange
    rw [hcode]
    exact CaseRange.not_covers_apply hstart (List.all_eq_true.mp hall other hother) hcovers

/-- The lower-case form of a character is settled. -/
theorem isSettled_of_mem_lower {c d : Char} (hd : d ∈ lower c) : IsSettled d := by
  refine forall_mem_otherForm ?_ ?_ ?_ d hd
  · -- a long form
    intro entry hentry _ code hcode
    exact lowerExpansions_settled entry hentry code hcode
  · -- a form from a range
    intro range hrange hcovers
    exact isSettled_apply hrange hcovers
  · -- the character itself
    intro hform
    exact hform

/-! ## Sigmas -/

/-- Both lower-case forms of a capital sigma are settled. -/
theorem isSettled_lowerSigma (before after : List Char) : IsSettled (lowerSigma before after) := by
  unfold lowerSigma
  split <;> decide +kernel

/-- The capital sigma is not settled. -/
theorem IsSettled.ne_capitalSigma {c : Char} (h : IsSettled c) : c ≠ capitalSigma := by
  rintro rfl
  exact absurd h (by decide +kernel)

/-! ## Texts -/

/-- The lower-case form of a text is settled, whatever stands before the text. -/
theorem isSettled_of_mem_lowercaseAfter {before s : List Char} {d : Char}
    (hd : d ∈ lowercaseAfter before s) : IsSettled d := by
  induction s generalizing before with
  | nil => simp [lowercaseAfter] at hd
  | cons c rest ih =>
      rw [lowercaseAfter] at hd
      rcases List.mem_append.mp hd with hd | hd
      · split at hd
        · rw [List.mem_singleton.mp hd]
          exact isSettled_lowerSigma before rest
        · exact isSettled_of_mem_lower hd
      · exact ih hd

/-- A text of settled characters stays as it is, whatever stands before it. -/
theorem lowercaseAfter_eq_self {before s : List Char} (h : ∀ c ∈ s, IsSettled c) :
    lowercaseAfter before s = s := by
  induction s generalizing before with
  | nil => rfl
  | cons c rest ih =>
      obtain ⟨hc, hrest⟩ := List.forall_mem_cons.mp h
      have hlower : lower c = [c] := hc
      rw [lowercaseAfter, if_neg hc.ne_capitalSigma, hlower, ih hrest]
      rfl

/-- A text is its own lower-case form exactly if each of its characters is. -/
theorem lowercase_eq_self_iff {s : List Char} : lowercase s = s ↔ ∀ c ∈ s, IsSettled c := by
  constructor
  · intro h c hc
    rw [← h] at hc
    exact isSettled_of_mem_lowercaseAfter hc
  · exact lowercaseAfter_eq_self

end Text
end Casebook
