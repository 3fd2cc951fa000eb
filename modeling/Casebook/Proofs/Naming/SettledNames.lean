import Casebook.Naming
import Casebook.Proofs.Text.SettledCase

/-!
# Test names of test names

A test name is made in one pass: the description is put in lower case, and what is neither letter,
number nor blank is left out.  A second pass reads a text with other neighbours, since characters
between its letters are missing.  It makes no difference: all characters of a test name are their
own lower-case forms, and these do not depend on neighbours.

Main definitions:

- {lit}`Naming.IsNameChar`: the characters that a test name may have.

Main results:

- Theorem {lit}`Naming.isNameChar_of_mem_identifierChars`: a test name has no other characters.
- Theorem {lit}`Naming.identifier_idempotent`: the test name of a test name is that name, and which
  descriptions are test names already.
-/

namespace Casebook
namespace Naming

/-- The characters of test names: blanks, and letters and numbers that are their own lower-case
forms. -/
structure IsNameChar (c : Char) : Prop where
  kept : c = ' ' ∨ isWordChar c = true
  settled : Text.IsSettled c

/-- A test name has only characters of test names. -/
theorem isNameChar_of_mem_identifierChars {description : List Char} {c : Char}
    (hc : c ∈ identifierChars description) : IsNameChar c := by
  obtain ⟨hmem, hkept⟩ := List.mem_filter.mp hc
  exact ⟨by simpa using hkept, Text.isSettled_of_mem_lowercaseAfter hmem⟩

/-- A description is its own test name exactly if it has only characters of test names. -/
theorem identifierChars_eq_self_iff {description : List Char} :
    identifierChars description = description ↔ ∀ c ∈ description, IsNameChar c := by
  constructor
  · intro h c hc
    rw [← h] at hc
    exact isNameChar_of_mem_identifierChars hc
  · intro h
    have hlower : Text.lowercase description = description :=
      Text.lowercase_eq_self_iff.mpr fun c hc => (h c hc).settled
    rw [identifierChars, hlower, List.filter_eq_self]
    intro c hc
    simpa using (h c hc).kept

/-- The test name of a test name is that name.  A description is a test name already, and stays as
it is, exactly if all its characters are blanks, or letters and numbers that are their own
lower-case forms. -/
theorem identifier_idempotent :
    (∀ description, identifier (identifier description) = identifier description) ∧
    ∀ description, identifier description = description ↔
      ∀ c ∈ description.toList, IsNameChar c := by
  have hself (description : String) :
      identifier description = description ↔ ∀ c ∈ description.toList, IsNameChar c := by
    rw [← identifierChars_eq_self_iff, ← String.toList_inj, identifier, String.toList_ofList]
  refine ⟨fun description => (hself _).mpr fun c hc => ?_, hself⟩
  rw [identifier, String.toList_ofList] at hc
  exact isNameChar_of_mem_identifierChars hc

/-- A sigma that was final before a mark stays final when the mark is gone and a letter follows. -/
example : identifierChars ['Α', 'Σ', '!', 'Α'] = ['α', 'ς', 'α'] := by
  decide +kernel

end Naming
end Casebook
