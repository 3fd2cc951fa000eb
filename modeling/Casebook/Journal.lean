import Casebook.Model.Build

/-!
# The journal of a build

While a model is built, noteworthy steps are put down in a journal: that a document with a sound
heading is being read, every conflict between calls, and the size of the finished model.

Main definitions:

- {lit}`Event`: an entry of the journal.
- {lit}`buildNoting`: the building of a model, with the entries that it leaves in the journal.
- {lit}`journal`: the journal of building the model of a document.
-/

namespace Casebook

/-- How important an entry of a journal is. -/
inductive Level where
  | debug
  | warn
  deriving DecidableEq, Repr, Inhabited

namespace Level

/-- The word for a level. -/
def name : Level → String
  | .debug => "DEBUG"
  | .warn => "WARN"

end Level

/-- An entry of a journal. -/
inductive Event where
  /-- The items of a document are about to be read. -/
  | reading (heading : DocumentHeading) (items : Nat)
  /-- Calls of a function disagree. -/
  | conflicting (conflict : Conflict)
  /-- The signatures have been inferred. -/
  | inferred (slug : String) (leaves signatures conflicts : Nat)
  deriving DecidableEq, Repr, Inhabited

namespace Event

/-- How important an entry is. -/
def level : Event → Level
  | .reading _ _ => .debug
  | .conflicting _ => .warn
  | .inferred _ _ _ _ => .debug

/-- A kind that may be missing, as entries write it. -/
def kindText : Option Kind → String
  | none => "None"
  | some kind => "Some(" ++ kind.name ++ ")"

/-- The text of an entry. -/
def message : Event → String
  | .reading heading items =>
      "parsing `" ++ heading.exercise ++ "` (version " ++ heading.version ++ ", "
        ++ Digit.textOfNat items ++ " top-level items)"
  | .conflicting conflict =>
      "type conflict in `" ++ conflict.function ++ "`: " ++ conflict.slot.text ++ " "
        ++ kindText conflict.previous ++ " vs " ++ kindText conflict.observed
  | .inferred slug leaves signatures conflicts =>
      "`" ++ slug ++ "`: " ++ Digit.textOfNat leaves ++ " leaves, "
        ++ Digit.textOfNat signatures ++ " signatures, "
        ++ Digit.textOfNat conflicts ++ " conflicts"

end Event

/-! ## Keeping the journal -/

/-- Steps that may leave entries in the journal. -/
abbrev Journaling := StateM (List Event)

/-- Leave an entry in the journal. -/
def note (event : Event) : Journaling Unit :=
  modify fun entries => entries ++ [event]

/-- Leave an entry for each of some conflicts. -/
def noteConflicts (conflicts : List Conflict) : Journaling Unit :=
  conflicts.forM fun conflict => note (.conflicting conflict)

/-- Compare a call with a profile, noting the conflicts over its inputs, over the parameters that it
lacks, and over its result. -/
def Profile.compareNoting (function : String) (profile : Profile) (shape : CallShape) :
    Journaling (Profile × List Conflict) := do
  let (seen, inputConflicts) := compareInputs function profile.parameters shape.inputs.entries
  noteConflicts inputConflicts
  let (parameters, lackConflicts) := compareParameters function shape.inputs seen
  noteConflicts lackConflicts
  let (returns, resultConflicts) := compareResult function profile.returns shape.returns
  noteConflicts resultConflicts
  return (⟨parameters, returns⟩, inputConflicts ++ lackConflicts ++ resultConflicts)

/-- Survey one more test, noting the conflicts that it causes. -/
def Survey.observeNoting (survey : Survey) (leaf : Leaf) : Journaling Survey :=
  match survey.profiles.get? leaf.property with
  | none =>
      return { survey with profiles := survey.profiles.put leaf.property (.ofShape leaf.shape) }
  | some held => do
      let (profile, conflicts) ← held.compareNoting leaf.property leaf.shape
      return ⟨survey.profiles.put leaf.property profile, survey.conflicts ++ conflicts⟩

/-- Infer the signatures of the functions under test, noting the conflicts between their calls. -/
def inferNoting (leaves : List Leaf) : Journaling Inferred := do
  let survey ← leaves.foldlM Survey.observeNoting .empty
  return survey.result

/-- Go on with what a step yields; if it fails, there is no model for that cause. -/
def proceedOr {ε α : Type} (cause : ε → BuildFailure) :
    Except ε α → ExceptT BuildFailure Journaling α
  | .ok value => return value
  | .error failure => throw (cause failure)

/-- Build the model of a document that has yet to be read, noting the steps on the way: that the
items are about to be read, the conflicts, and the size of what was inferred. -/
def buildNoting (raw : Json) : ExceptT BuildFailure Journaling Outcome := do
  let outline ← proceedOr .fault (Outline.ofJson raw)
  note (.reading outline.heading outline.items.length)
  let document ← proceedOr .fault outline.complete
  let slug := document.heading.exercise
  let leaves := document.leaves
  let inferred ← inferNoting leaves
  note (.inferred slug leaves.length inferred.signatures.length inferred.conflicts.length)
  let testCases ← proceedOr .unbound (bindLeaves inferred.signatures leaves)
  return {
    model := { slug, signatures := inferred.signatures, testCases }
    warnings := inferred.conflicts.map .typeConflict ++ duplicateNames testCases }

/-- The journal of building the model of a document. -/
def journal (raw : Json) : List Event :=
  ((buildNoting raw).run.run []).2

end Casebook
