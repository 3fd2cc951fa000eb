import Casebook.Proofs.Model.Building

/-!
# Test cases fit their signatures

A test is bound to the signature that its function has in the end, after all tests of all functions
were surveyed.  Whatever a later call widens becomes unknown, so that the signature still covers
every call that was surveyed before.

Main definitions:

- {lit}`TestCase.WellTyped`: a test case fits its signature.

Main results:

- Theorem {lit}`Profile.Covers.wellTyped`: a test that its profile covers comes to a test case that
  fits the signature of the profile.
- Theorem {lit}`build_wellTyped`: every test case of a model fits its signature.
-/

namespace Casebook

/-- A test case fits its signature: its arguments are parameters, every parameter of a definite kind
has an argument of that kind, and a result of a definite kind is the one expected. -/
structure TestCase.WellTyped (testCase : TestCase) : Prop where
  declared : ∀ name ∈ testCase.arguments.keys, name ∈ testCase.signature.parameters.keys
  supplied : ∀ parameter ∈ testCase.signature.parameters.entries, parameter.2 ≠ .unknown →
    ∃ value, testCase.arguments.get? parameter.1 = some value ∧ value.kind = parameter.2
  result : testCase.signature.returns = .unknown ∨
    testCase.signature.returns = testCase.expected.kind

/-! ## Covered tests -/

/-- A parameter of a profile that covers a test is an input of the test with its kind, or
unknown. -/
theorem Profile.Covers.get?_parameters {profile : Profile} {leaf : Leaf}
    (h : profile.Covers leaf.shape) (name : String) :
    profile.parameters.get? name = (leaf.input.get? name).map Value.kind ∨
      profile.parameters.get? name = some .unknown := by
  have hparameter := h.parameter name
  simp only [Leaf.shape, Table.get?_mapValues] at hparameter
  exact hparameter

/-- A test that its profile covers comes to a test case that fits the signature of the profile. -/
theorem Profile.Covers.wellTyped {profile : Profile} {leaf : Leaf}
    (h : profile.Covers leaf.shape) (hexpected : leaf.expected.isError = false) :
    (leaf.toTestCase (profile.signature leaf.property)).WellTyped := by
  constructor
  · intro name hmem
    rcases (leaf.input.mem_keys_iff name).mp hmem with ⟨value, hvalue⟩
    apply (profile.parameters.mem_keys_iff name).mpr
    rcases h.get?_parameters name with hkind | hunknown
    · rw [hvalue] at hkind
      exact ⟨value.kind, hkind⟩
    · exact ⟨.unknown, hunknown⟩
  · rintro ⟨name, kind⟩ hmem hdefinite
    have hheld : profile.parameters.get? name = some kind :=
      (profile.parameters.get?_eq_some_iff name kind).mpr hmem
    rcases h.get?_parameters name with hkind | hunknown
    · rw [hheld] at hkind
      exact Option.map_eq_some_iff.mp hkind.symm
    · rw [hheld, Option.some.injEq] at hunknown
      exact (hdefinite hunknown).elim
  · have hshown : leaf.shape.returns = some leaf.expected.kind := by
      simp [Leaf.shape, hexpected]
    rcases h.result _ hshown with hkind | hunknown
    · exact Or.inr (by simp [Leaf.toTestCase, Profile.signature, hkind])
    · exact Or.inl (by simp [Leaf.toTestCase, Profile.signature, hunknown])

/-! ## Models -/

/-- Every test case of a model fits its signature. -/
theorem build_wellTyped {raw : Json} {outcome : Outcome} (h : build raw = .ok outcome) :
    ∀ testCase ∈ outcome.model.testCases, testCase.WellTyped := by
  rcases (build_eq_ok_iff raw outcome).mp h with ⟨document, -, hbuilt⟩
  intro testCase hmem
  rcases ItemByItem.exists_left hbuilt.testCases testCase hmem with ⟨leaf, hleaf, hbound⟩
  rw [List.mem_filter, Bool.not_eq_true'] at hleaf
  rcases profile_of_boundTo hbound with ⟨profile, hprofile, rfl⟩
  -- Later tests may have widened the profile since this one was surveyed; it is covered still.
  rcases Survey.covers_ofLeaves document.leaves leaf hleaf.1 with ⟨held, hheld, hcovers⟩
  rw [hprofile, Option.some.injEq] at hheld
  subst hheld
  exact hcovers.wellTyped hleaf.2

/-- The test case of the small document fits its signature. -/
theorem build_wellTyped_sample :
    ∃ outcome, build sampleDocument = .ok outcome ∧ outcome.model.testCases.length = 1 ∧
      ∀ testCase ∈ outcome.model.testCases, testCase.WellTyped := by
  have hbuild : ∃ outcome, build sampleDocument = .ok outcome ∧
      outcome.model.testCases.length = 1 := ⟨_, rfl, rfl⟩
  rcases hbuild with ⟨outcome, houtcome, hlength⟩
  exact ⟨outcome, houtcome, hlength, build_wellTyped houtcome⟩

end Casebook
