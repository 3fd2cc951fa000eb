import Casebook.Proofs.Model.Building

/-!
# Test cases are conserved

The test cases of a model can be told from the JSON value alone: there is one for every object that
describes a test and does not expect it to fail, in the order of the objects, and it says what the
object says.  No test is lost or added, and tests that share a name stay apart.

Main definitions:

- {lit}`CaseOf`: the test case that the object of a test comes to.

Main results:

- Theorem {lit}`LeafOf.caseOf`: a test that an object describes is bound to a test case of the
  object.
- Theorem {lit}`build_conserves_cases`: the test cases of a model are those of the objects that do
  not expect a failure, one by one.
-/

namespace Casebook

/-- The test case that the object of a test comes to. -/
structure CaseOf (signatures : List Signature) (fields : Fields) (testCase : TestCase) :
    Prop where
  name : fields.lookup "description" = some (.string testCase.name)
  function : fields.lookup "property" = some (.string testCase.signature.name)
  signature : testCase.signature ∈ signatures
  /-- No other signature has the name. -/
  unique : ∀ other ∈ signatures, other.name = testCase.signature.name →
    other = testCase.signature
  /-- The inputs are typed one by one and in their order if no name is repeated, as in every object
  that is read from a text. -/
  arguments : ∃ inputs, fields.lookup "input" = some (.object inputs) ∧
    InputsOf inputs testCase.arguments ∧
    ((inputs.map Prod.fst).Nodup → List.Forall₂ InputOf inputs testCase.arguments.entries)
  expected : ∃ raw, fields.lookup "expected" = some raw ∧
    raw.TypedAs .expected testCase.expected
  comments : CommentsOf (fields.lookup "comments") testCase.comments
  optional : OptionalOf (fields.lookup "optional") testCase.optional

/-- A test that an object describes is bound to a test case of the object. -/
theorem LeafOf.caseOf {fields : Fields} {leaf : Leaf} (h : LeafOf fields leaf)
    {leaves : List Leaf} {testCase : TestCase}
    (hbound : BoundTo (infer leaves).signatures leaf testCase) :
    CaseOf (infer leaves).signatures fields testCase := by
  rcases hbound with ⟨signature, hlast, rfl⟩
  rcases mem_of_lastSignature?_eq_some hlast with ⟨hmem, hname⟩
  rcases h.input with ⟨inputs, hlookup, hinputs⟩
  have hfunction : fields.lookup "property" = some (.string signature.name) := by
    rw [hname]
    exact h.property
  exact
    { name := h.description
      function := hfunction
      signature := hmem
      unique := fun _ hother hsame => eq_of_mem_infer_of_name hmem hother hsame
      arguments := ⟨inputs, hlookup, hinputs, hinputs.forall₂⟩
      expected := h.expected
      comments := h.comments
      optional := h.optional }

/-- The tests that do not expect a failure are described by the objects that do not, one by one. -/
theorem DocumentOf.leafOf_filter {raw : Json} {document : Document} (h : DocumentOf raw document) :
    List.Forall₂ LeafOf (raw.leafObjects.filter fun fields => ¬ ExpectsFailure fields)
      (document.leaves.filter fun leaf => !leaf.expected.isError) := by
  refine List.rel_filter ?_ h.leafOf_leaves
  intro fields leaf hleaf
  have hfails := hleaf.isError_expected_iff
  simp [← hfails]

/-- The test cases of a model are those of the objects that describe a test and do not expect it to
fail, one by one, and the slug is the name of the exercise. -/
theorem build_conserves_cases {raw : Json} {outcome : Outcome} (h : build raw = .ok outcome) :
    (∃ fields, raw = .object fields ∧
      fields.lookup "exercise" = some (.string outcome.model.slug)) ∧
    List.Forall₂ (CaseOf outcome.model.signatures)
      (raw.leafObjects.filter fun fields => ¬ ExpectsFailure fields)
      outcome.model.testCases := by
  rcases (build_eq_ok_iff raw outcome).mp h with ⟨document, hread, hbuilt⟩
  constructor
  · rw [hbuilt.slug]
    cases hread with
    | intro _ hexercise _ _ _ => exact ⟨_, rfl, hexercise⟩
  · rw [hbuilt.signatures]
    have hpath := ItemByItem.trans hread.leafOf_filter hbuilt.testCases
    refine hpath.imp ?_
    rintro fields testCase ⟨leaf, hleaf, hbound⟩
    exact hleaf.caseOf hbound

/-- The small document has three tests, and its model has a test case for the first of them. -/
theorem build_conserves_cases_sample :
    ∃ outcome, build sampleDocument = .ok outcome ∧ outcome.model.testCases.length = 1 ∧
      sampleDocument.leafObjects.length = 3 ∧
      List.Forall₂ (CaseOf outcome.model.signatures)
        (sampleDocument.leafObjects.filter fun fields => ¬ ExpectsFailure fields)
        outcome.model.testCases := by
  have hbuild : ∃ outcome, build sampleDocument = .ok outcome ∧
      outcome.model.testCases.length = 1 := ⟨_, rfl, rfl⟩
  rcases hbuild with ⟨outcome, houtcome, hlength⟩
  exact ⟨outcome, houtcome, hlength, rfl, (build_conserves_cases houtcome).2⟩

end Casebook
