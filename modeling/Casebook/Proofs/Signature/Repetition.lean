import Casebook.Proofs.Signature.Summary

/-!
# Repeated calls

A survey that has seen a call learns nothing from seeing it again, whatever came between.  It covers
the call: wherever it holds something definite it holds what the call shows, and it goes on to do so
as it widens.  A comparison with a call that is covered changes nothing.

Main definitions:

- {lit}`Leaf.SameCall`: two tests make the same call, apart from the order of the inputs.

Main results:

- Theorem {lit}`Profile.Covers.compare_eq_self`: a call that is covered changes no profile and causes
  no conflict.
- Theorem {lit}`Survey.Covers.observe_eq_self`: a test that is covered changes no survey.
- Theorem {lit}`observe_repeated_call`: a test whose call was surveyed before changes nothing.
-/

namespace Casebook

/-! ## The same call -/

/-- Two tests make the same call: of the same function, with inputs of the same names and kinds in
any order, and both are to fail or expect results of the same kind. -/
structure Leaf.SameCall (leaf earlier : Leaf) : Prop where
  property : leaf.property = earlier.property
  input : ∀ name, leaf.inputKind? name = earlier.inputKind? name
  expected : (leaf.expected.isError = true ∧ earlier.expected.isError = true) ∨
    leaf.expected.kind = earlier.expected.kind

/-- A value announces a failing call exactly if its kind is unknown. -/
theorem Value.isError_iff_kind (value : Value) :
    value.isError = true ↔ value.kind = .unknown := by
  cases value <;> simp [isError, kind]

/-- The same call shows the same result. -/
theorem Leaf.SameCall.returns_shape {leaf earlier : Leaf} (h : leaf.SameCall earlier) :
    leaf.shape.returns = earlier.shape.returns := by
  simp only [shape, Value.isError_iff_kind]
  rcases h.expected with ⟨hleaf, hearlier⟩ | hkind
  · rw [Value.isError_iff_kind] at hleaf hearlier
    rw [if_pos hleaf, if_pos hearlier]
  · rw [hkind]

/-! ## Calls that are covered -/

namespace Profile

/-- Inputs that are covered change no parameter and cause no conflict. -/
theorem compareInputs_eq_self (function : String) {held : Table Kind}
    {inputs : List (String × Kind)}
    (h : ∀ input ∈ inputs, held.get? input.1 = some input.2 ∨
      held.get? input.1 = some .unknown) :
    compareInputs function held inputs = (held, []) := by
  induction inputs with
  | nil => rfl
  | cons input rest ih =>
      rcases input with ⟨name, observed⟩
      rw [List.forall_mem_cons] at h
      rw [compareInputs, if_pos h.1, ih h.2]

/-- Parameters that a call has, or that are unknown, are kept without a conflict. -/
theorem compareParameters_eq_self (function : String) {inputs held : Table Kind}
    (h : ∀ parameter ∈ held.entries,
      inputs.contains parameter.1 = true ∨ parameter.2 = .unknown) :
    compareParameters function inputs held = (held, []) := by
  have hkept : ∀ parameter ∈ held.entries,
      (if inputs.contains parameter.1 then parameter.2 else .unknown) = parameter.2 := by
    intro parameter hmem
    rcases h parameter hmem with hinput | hunknown
    · rw [if_pos hinput]
    · rw [hunknown, ite_self]
  have hsilent : held.entries.filterMap (lacking? function inputs) = [] := by
    rw [List.filterMap_eq_nil_iff]
    intro parameter hmem
    rcases h parameter hmem with hinput | hunknown
    · simp [lacking?, hinput]
    · simp [lacking?, hunknown]
  rw [compareParameters, Table.mapValues_eq_self hkept, hsilent]

/-- A result that is covered changes nothing and causes no conflict. -/
theorem compareResult_eq_self (function : String) {held observed : Option Kind}
    (h : ∀ kind, observed = some kind → held = some kind ∨ held = some .unknown) :
    compareResult function held observed = (held, []) := by
  cases observed with
  | none => cases held <;> rfl
  | some kind => rcases h kind rfl with rfl | rfl <;> simp [compareResult]

/-- A call that is covered changes no profile and causes no conflict. -/
theorem Covers.compare_eq_self {profile : Profile} {shape : CallShape} (h : profile.Covers shape)
    (function : String) : profile.compare function shape = (profile, []) := by
  have hinputs : ∀ input ∈ shape.inputs.entries,
      profile.parameters.get? input.1 = some input.2 ∨
        profile.parameters.get? input.1 = some .unknown := by
    intro input hmem
    rw [← (shape.inputs.get?_eq_some_iff input.1 input.2).mpr hmem]
    exact h.parameter input.1
  have hparameters : ∀ parameter ∈ profile.parameters.entries,
      shape.inputs.contains parameter.1 = true ∨ parameter.2 = .unknown := by
    intro parameter hmem
    have hheld := (profile.parameters.get?_eq_some_iff parameter.1 parameter.2).mpr hmem
    rcases h.parameter parameter.1 with hshown | hunknown
    · rw [hheld] at hshown
      exact Or.inl (by rw [Table.contains, ← hshown, Option.isSome_some])
    · rw [hheld, Option.some.injEq] at hunknown
      exact Or.inr hunknown
  simp only [Profile.compare, compareInputs_eq_self function hinputs,
    compareParameters_eq_self function hparameters, compareResult_eq_self function h.result,
    List.append_nil]

/-- What a profile covers does not depend on the order of the inputs. -/
theorem Covers.of_sameCall {profile : Profile} {leaf earlier : Leaf}
    (h : profile.Covers earlier.shape) (hsame : leaf.SameCall earlier) :
    profile.Covers leaf.shape := by
  constructor
  · intro name
    rw [Leaf.get?_inputs_shape, hsame.input, ← Leaf.get?_inputs_shape]
    exact h.parameter name
  · intro kind hkind
    rw [hsame.returns_shape] at hkind
    exact h.result kind hkind

end Profile

namespace Survey

/-- A test that is covered changes no survey. -/
theorem Covers.observe_eq_self {survey : Survey} {leaf : Leaf} (h : survey.Covers leaf) :
    survey.observe leaf = survey := by
  rcases h with ⟨profile, hprofile, hcovers⟩
  rw [observe_of_known hprofile, hcovers.compare_eq_self, Table.put_eq_self hprofile,
    List.append_nil]

/-- A survey that covers a test covers every test that makes the same call. -/
theorem Covers.of_sameCall {survey : Survey} {leaf earlier : Leaf} (h : survey.Covers earlier)
    (hsame : leaf.SameCall earlier) : survey.Covers leaf := by
  rcases h with ⟨profile, hprofile, hcovers⟩
  exact ⟨profile, hsame.property ▸ hprofile, hcovers.of_sameCall hsame⟩

end Survey

/-- A test whose call was surveyed before changes nothing, whatever was surveyed in between: neither
the functions, their parameters and results nor the conflicts. -/
theorem observe_repeated_call {leaves : List Leaf} {leaf earlier : Leaf} (hmem : earlier ∈ leaves)
    (h : leaf.SameCall earlier) :
    (Survey.ofLeaves leaves).observe leaf = Survey.ofLeaves leaves := by
  have hearlier := Survey.covers_ofLeaves leaves earlier hmem
  exact (hearlier.of_sameCall h).observe_eq_self

/-- A test that makes the same call as the second one of the four sample tests, with its inputs in
another order and with other values. -/
def repeatingLeaf : Leaf :=
  ⟨"another text is no summand", "add", .ofList [("b", .int 0), ("a", .string "")],
    .error "empty text", none, none⟩

/-- By the end of the sample tests an input of the call has been widened and a result has been seen;
still the call changes nothing. -/
theorem observe_repeated_call_sample :
    ∃ earlier ∈ sampleLeaves, repeatingLeaf.SameCall earlier ∧
      (Survey.ofLeaves sampleLeaves).held "add" (.parameter "a") = some .unknown ∧
      (Survey.ofLeaves sampleLeaves).observe repeatingLeaf = Survey.ofLeaves sampleLeaves := by
  let earlier : Leaf := ⟨"a text is no summand", "add",
    .ofList [("a", .string "one"), ("b", .int 2)], .error "not a number", none, none⟩
  have hmem : earlier ∈ sampleLeaves := by simp [sampleLeaves, earlier]
  have hsame : repeatingLeaf.SameCall earlier := by
    refine ⟨rfl, fun name => ?_, Or.inl ⟨rfl, rfl⟩⟩
    change (List.lookup name [("b", Value.int 0), ("a", .string "")]).map Value.kind =
      (List.lookup name [("a", Value.string "one"), ("b", .int 2)]).map Value.kind
    by_cases ha : name = "a"
    · subst ha
      rfl
    · by_cases hb : name = "b"
      · subst hb
        rfl
      · simp [List.lookup_cons, beq_false_of_ne ha, beq_false_of_ne hb]
  exact ⟨earlier, hmem, hsame, by decide, observe_repeated_call hmem hsame⟩

end Casebook
