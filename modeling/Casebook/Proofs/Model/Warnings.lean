import Casebook.Proofs.Model.Building
import Casebook.Proofs.Signature.Agreement

/-!
# Warnings tell of what is unknown

A slot of a signature is unknown because calls disagree on it, and the warnings tell of every such
slot exactly once.  The one exception is the result of a function that only fails: it is unknown
because no call shows it, and no warning tells of it.

Main definitions:

- {lit}`Outcome.warningsOver`: how many warnings tell of a conflict over a slot.
- {lit}`OnlyFails`: all tests of a function expect it to fail.
- {lit}`Outcome.TellsUnknown`: the warnings of a model tell exactly of what is unknown in it.

Main results:

- Theorem {lit}`BuiltFrom.warningsOver_eq`: the warnings over a slot are the conflicts over it.
- Theorem {lit}`build_tellsUnknown`: the warnings of every model tell exactly of what is unknown
  in it.
-/

namespace Casebook

/-! ## Warnings over a slot -/

/-- A warning tells of a conflict over a slot of a function. -/
def Warning.concerns (function : String) (slot : Slot) : Warning → Bool
  | .typeConflict conflict => conflict.concerns function slot
  | .duplicateName _ _ => false

/-- How many warnings tell of a conflict over a slot of a function. -/
def Outcome.warningsOver (outcome : Outcome) (function : String) (slot : Slot) : Nat :=
  outcome.warnings.countP (Warning.concerns function slot)

/-- All tests of a function, if it has any, expect it to fail. -/
def OnlyFails (leaves : List Leaf) (function : String) : Prop :=
  ∀ leaf ∈ leaves, leaf.property = function → leaf.expected.isError = true

/-- The warnings of a model that is built from some tests tell exactly of what is unknown in it. -/
structure Outcome.TellsUnknown (outcome : Outcome) (leaves : List Leaf) : Prop where
  /-- There is one warning over every parameter that is unknown and none over any other. -/
  parameter : ∀ signature ∈ outcome.model.signatures,
    ∀ parameter ∈ signature.parameters.entries,
      (parameter.2 = .unknown ↔
        outcome.warningsOver signature.name (.parameter parameter.1) = 1) ∧
      (parameter.2 ≠ .unknown →
        outcome.warningsOver signature.name (.parameter parameter.1) = 0)
  /-- There is one warning over every result that is unknown, unless the function only fails. -/
  result : ∀ signature ∈ outcome.model.signatures,
    signature.returns = .unknown ↔
      outcome.warningsOver signature.name .result = 1 ∨ OnlyFails leaves signature.name
  /-- There is no warning over a result that is known or that of a function that only fails. -/
  silent : ∀ signature ∈ outcome.model.signatures,
    signature.returns ≠ .unknown ∨ OnlyFails leaves signature.name →
      outcome.warningsOver signature.name .result = 0
  /-- A warning of a conflict names a function that has a signature, and a parameter of it. -/
  named : ∀ conflict, .typeConflict conflict ∈ outcome.warnings →
    ∃ signature ∈ outcome.model.signatures, signature.name = conflict.function ∧
      ∀ name, conflict.slot = .parameter name → name ∈ signature.parameters.keys

/-- Warnings about names tell of no conflict. -/
theorem exists_of_mem_duplicateNames {testCases : List TestCase} {warning : Warning}
    (h : warning ∈ duplicateNames testCases) :
    ∃ name occurrences, warning = .duplicateName name occurrences := by
  rcases List.mem_filterMap.mp h with ⟨entry, -, hentry⟩
  split at hentry
  · exact ⟨_, _, (Option.some.inj hentry).symm⟩
  · contradiction

/-- A call shows no result exactly if it is expected to fail. -/
theorem Leaf.returns_shape_eq_none_iff (leaf : Leaf) :
    leaf.shape.returns = none ↔ leaf.expected.isError = true := by
  simp only [shape]
  split <;> simp_all

namespace BuiltFrom

variable {document : Document} {outcome : Outcome}

/-- The warnings of conflicts tell of the conflicts that are inferred, in their order. -/
theorem conflicts_warnings (h : BuiltFrom document outcome) :
    outcome.warnings.filterMap Warning.conflict? = (infer document.leaves).conflicts := by
  have hnames : (duplicateNames outcome.model.testCases).filterMap Warning.conflict? = [] := by
    rw [List.filterMap_eq_nil_iff]
    intro warning hmem
    rcases exists_of_mem_duplicateNames hmem with ⟨name, occurrences, rfl⟩
    rfl
  rw [h.warnings, List.filterMap_append, hnames, List.append_nil, List.filterMap_map]
  exact List.filterMap_some

/-- The warnings over a slot are the conflicts over it. -/
theorem warningsOver_eq (h : BuiltFrom document outcome) (function : String) (slot : Slot) :
    outcome.warningsOver function slot =
      (Survey.ofLeaves document.leaves).conflicts.countP (Conflict.concerns function slot) := by
  have hconflicts : ((infer document.leaves).conflicts.map Warning.typeConflict).countP
        (Warning.concerns function slot) =
      (infer document.leaves).conflicts.countP (Conflict.concerns function slot) := by
    rw [List.countP_map]
    rfl
  have hnames : (duplicateNames outcome.model.testCases).countP
      (Warning.concerns function slot) = 0 := by
    rw [List.countP_eq_zero]
    intro warning hmem
    rcases exists_of_mem_duplicateNames hmem with ⟨name, occurrences, rfl⟩
    simp [Warning.concerns]
  rw [Outcome.warningsOver, h.warnings, List.countP_append, hconflicts, hnames]
  rfl

/-- A warning of a conflict tells of a conflict of the survey. -/
theorem mem_conflicts (h : BuiltFrom document outcome) {conflict : Conflict}
    (hmem : .typeConflict conflict ∈ outcome.warnings) :
    conflict ∈ (Survey.ofLeaves document.leaves).conflicts := by
  rw [h.warnings, List.mem_append] at hmem
  rcases hmem with hconflict | hname
  · rcases List.mem_map.mp hconflict with ⟨other, hother, heq⟩
    cases heq
    exact hother
  · rcases exists_of_mem_duplicateNames hname with ⟨name, occurrences, heq⟩
    contradiction

/-- A signature is that of the profile of its function. -/
theorem exists_profile (h : BuiltFrom document outcome) {signature : Signature}
    (hmem : signature ∈ outcome.model.signatures) :
    ∃ profile, (Survey.ofLeaves document.leaves).profiles.get? signature.name = some profile ∧
      signature.parameters = profile.parameters ∧
      signature.returns = profile.returns.getD .unknown := by
  rw [h.signatures, mem_signatures_infer_iff] at hmem
  rcases hmem with ⟨function, profile, hprofile, rfl⟩
  exact ⟨profile, hprofile, rfl, rfl⟩

/-- If the survey is recorded, there is one warning over every parameter that is unknown and none
over any other. -/
theorem warningsOver_parameter (h : BuiltFrom document outcome)
    (hrecorded : (Survey.ofLeaves document.leaves).Recorded) {signature : Signature}
    (hmem : signature ∈ outcome.model.signatures) {parameter : String × Kind}
    (hparameter : parameter ∈ signature.parameters.entries) :
    outcome.warningsOver signature.name (.parameter parameter.1) =
      if parameter.2 = .unknown then 1 else 0 := by
  rcases h.exists_profile hmem with ⟨profile, hprofile, hparameters, -⟩
  have hheld : profile.parameters.get? parameter.1 = some parameter.2 := by
    rw [← hparameters, Table.get?_eq_some_iff]
    exact hparameter
  rw [h.warningsOver_eq, (hrecorded.seen _ _ hprofile).parameter, hheld]
  simp

/-- If the survey is recorded, there is one warning over a result that is held to be unknown and
none over any other. -/
theorem warningsOver_result (h : BuiltFrom document outcome)
    (hrecorded : (Survey.ofLeaves document.leaves).Recorded) {function : String}
    {profile : Profile}
    (hprofile : (Survey.ofLeaves document.leaves).profiles.get? function = some profile) :
    outcome.warningsOver function .result =
      if profile.returns = some .unknown then 1 else 0 := by
  rw [h.warningsOver_eq, (hrecorded.seen _ _ hprofile).result]

/-- A function only fails exactly if no result is held in its profile. -/
theorem onlyFails_iff {function : String} {profile : Profile}
    (hprofile : (Survey.ofLeaves document.leaves).profiles.get? function = some profile) :
    OnlyFails document.leaves function ↔ profile.returns = none := by
  rw [Survey.get?_ofLeaves] at hprofile
  rw [Profile.returns_ofCalls_eq_none_iff hprofile, callsOf, List.forall_mem_map]
  simp only [List.mem_filter, beq_iff_eq, and_imp, Leaf.returns_shape_eq_none_iff]
  rfl

/-- If the survey is recorded, the warnings tell exactly of what is unknown. -/
theorem tellsUnknown (h : BuiltFrom document outcome)
    (hrecorded : (Survey.ofLeaves document.leaves).Recorded) :
    outcome.TellsUnknown document.leaves := by
  constructor
  case parameter =>
    intro signature hmem parameter hparameter
    rw [h.warningsOver_parameter hrecorded hmem hparameter]
    by_cases hunknown : parameter.2 = .unknown <;> simp [hunknown]
  case result =>
    intro signature hmem
    rcases h.exists_profile hmem with ⟨profile, hprofile, -, hreturns⟩
    rw [h.warningsOver_result hrecorded hprofile, onlyFails_iff hprofile, hreturns]
    -- No result is held of a function that only fails: it is unknown without a conflict.
    rcases profile.returns with _ | kind
    · simp
    · by_cases hunknown : kind = .unknown <;> simp [hunknown]
  case silent =>
    intro signature hmem hquiet
    rcases h.exists_profile hmem with ⟨profile, hprofile, -, hreturns⟩
    rw [onlyFails_iff hprofile, hreturns] at hquiet
    rw [h.warningsOver_result hrecorded hprofile]
    rcases hheld : profile.returns with _ | kind
    · simp
    · have hknown : kind ≠ .unknown := by simpa [hheld] using hquiet
      simp [hknown]
  case named =>
    intro conflict hmem
    rcases hrecorded.exists_profile (h.mem_conflicts hmem) with ⟨profile, hprofile, hslot⟩
    refine ⟨profile.signature conflict.function, ?_, rfl, hslot⟩
    rw [h.signatures, mem_signatures_infer_iff]
    exact ⟨conflict.function, profile, hprofile, rfl⟩

end BuiltFrom

/-! ## Models -/

/-- All calls in a document that was read are definite. -/
theorem DocumentOf.definite_leaves {raw : Json} {document : Document}
    (h : DocumentOf raw document) : ∀ leaf ∈ document.leaves, leaf.shape.Definite :=
  fun leaf hmem => Leaf.definite_shape (h.isError_input_eq_false leaf hmem)

/-- The survey of the tests of a document that was read is recorded. -/
theorem DocumentOf.recorded_leaves {raw : Json} {document : Document}
    (h : DocumentOf raw document) : (Survey.ofLeaves document.leaves).Recorded :=
  Survey.recorded_ofLeaves h.definite_leaves

/-- The warnings of every model tell exactly of what is unknown in it. -/
theorem build_tellsUnknown {raw : Json} {document : Document} {outcome : Outcome}
    (hread : Document.ofJson raw = .ok document) (h : build raw = .ok outcome) :
    outcome.TellsUnknown document.leaves := by
  rcases builtFrom_of_build hread h with ⟨hdocument, hbuilt⟩
  exact hbuilt.tellsUnknown hdocument.recorded_leaves

/-- The warnings of the small document tell of the input on which calls disagree. -/
theorem build_tellsUnknown_sample :
    ∃ document outcome, Document.ofJson sampleDocument = .ok document ∧
      build sampleDocument = .ok outcome ∧ outcome.warningsOver "add" (.parameter "a") = 1 ∧
      outcome.warningsOver "divide" .result = 0 ∧ outcome.TellsUnknown document.leaves := by
  have hread : ∃ document, Document.ofJson sampleDocument = .ok document := ⟨_, rfl⟩
  have hbuild : ∃ outcome, build sampleDocument = .ok outcome ∧
      outcome.warningsOver "add" (.parameter "a") = 1 ∧
      outcome.warningsOver "divide" .result = 0 := ⟨_, rfl, rfl, rfl⟩
  rcases hread with ⟨document, hdocument⟩
  rcases hbuild with ⟨outcome, houtcome, hinput, hresult⟩
  exact ⟨document, outcome, hdocument, houtcome, hinput, hresult,
    build_tellsUnknown hdocument houtcome⟩

end Casebook
