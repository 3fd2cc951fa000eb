import Casebook.Proofs.Signature.Survey

/-!
# The record of conflicts

Conflicts are recorded exactly where something is widened.  As long as no call shows anything
unknown by itself, the slots that a survey holds to be unknown are therefore those that its
conflicts are over, and there is one conflict over each.

Main definitions:

- {lit}`CallShape.Definite`: nothing that a call shows is unknown.
- {lit}`Survey.Recorded`: the conflicts of a survey are over the slots that it holds to be unknown,
  one over each.

Main results:

- Theorem {lit}`Survey.recorded_ofLeaves`: the survey of tests with definite calls is recorded.
-/

namespace Casebook

/-- Nothing that a call shows is unknown. -/
structure CallShape.Definite (shape : CallShape) : Prop where
  parameter : ∀ name, shape.inputs.get? name ≠ some .unknown
  result : shape.returns ≠ some .unknown

/-- A value that does not announce a failing call has a definite kind. -/
theorem Value.kind_ne_unknown {value : Value} (h : value.isError = false) :
    value.kind ≠ .unknown := by
  cases value with
  | error message => contradiction
  | _ => simp [Value.kind]

/-- The call of a test is definite if none of its inputs announces a failing call. -/
theorem Leaf.definite_shape {leaf : Leaf}
    (h : ∀ entry ∈ leaf.input.entries, entry.2.isError = false) : leaf.shape.Definite := by
  constructor
  · intro name
    simp only [shape, Table.get?_mapValues]
    cases hvalue : leaf.input.get? name with
    | none => simp
    | some value =>
        have hmem := (leaf.input.get?_eq_some_iff name value).mp hvalue
        simpa using Value.kind_ne_unknown (h _ hmem)
  · simp only [shape]
    split
    · simp
    · rename_i hexpected
      simpa using Value.kind_ne_unknown (by simpa using hexpected)

/-- The conflicts over the slots of a function are over those that its profile holds to be unknown,
one over each. -/
structure Survey.Records (survey : Survey) (function : String) (profile : Profile) : Prop where
  parameter : ∀ name, survey.conflicts.countP (Conflict.concerns function (.parameter name)) =
    if profile.parameters.get? name = some .unknown then 1 else 0
  result : survey.conflicts.countP (Conflict.concerns function .result) =
    if profile.returns = some .unknown then 1 else 0

/-- The conflicts of a survey are over the slots that it holds to be unknown, one over each. -/
structure Survey.Recorded (survey : Survey) : Prop where
  seen : ∀ function profile, survey.profiles.get? function = some profile →
    survey.Records function profile
  unseen : ∀ function, survey.profiles.get? function = none → ∀ slot,
    survey.conflicts.countP (Conflict.concerns function slot) = 0

namespace Survey

/-- A survey of no tests has no conflicts to record. -/
theorem recorded_empty : Recorded empty := by
  constructor
  · intro function profile h
    simp [empty] at h
  · intro function _ slot
    rfl

/-- A result is unknown after an observation exactly if it was so before or a conflict is recorded,
never both. -/
theorem length_betweenResults?_add (function : String) (held : Option Kind)
    {observed : Option Kind} (h : observed ≠ some .unknown) :
    (if held = some .unknown then 1 else 0)
        + (Conflict.betweenResults? function held observed).toList.length =
      if Kind.widenResult held observed = some .unknown then 1 else 0 := by
  rcases held with _ | previous <;> rcases observed with _ | kind
  · rfl
  · simp only [Option.some.injEq, ne_eq] at h
    simp [Conflict.betweenResults?, Kind.widenResult, h]
  · simp [Conflict.betweenResults?, Kind.widenResult]
  · exact Conflict.length_between?_add function .result (some previous) (some kind)

/-- The first call of a function, if it is definite, leaves nothing to record. -/
theorem Recorded.records_of_new {survey : Survey} (h : survey.Recorded) {leaf : Leaf}
    (hshape : leaf.shape.Definite) (hnew : survey.profiles.get? leaf.property = none) :
    (survey.observe leaf).Records leaf.property (.ofShape leaf.shape) := by
  rw [observe_of_new hnew]
  constructor
  · intro name
    have hname : (Profile.ofShape leaf.shape).parameters.get? name ≠ some .unknown :=
      hshape.parameter name
    rw [if_neg hname]
    exact h.unseen leaf.property hnew (.parameter name)
  · have hresult : (Profile.ofShape leaf.shape).returns ≠ some .unknown := hshape.result
    rw [if_neg hresult]
    exact h.unseen leaf.property hnew .result

/-- A later call of a function, if it is definite, keeps the slots of the function recorded. -/
theorem Recorded.records_of_known {survey : Survey} (h : survey.Recorded) {leaf : Leaf}
    (hshape : leaf.shape.Definite) {held : Profile}
    (hknown : survey.profiles.get? leaf.property = some held) :
    (survey.observe leaf).Records leaf.property
      (held.compare leaf.property leaf.shape).1 := by
  have hheld := h.seen leaf.property held hknown
  rw [observe_of_known hknown]
  constructor
  · intro name
    rw [List.countP_append, hheld.parameter, Profile.countP_compare_parameter,
      Profile.get?_compare]
    exact Conflict.length_between?_add _ _ _ _
  · rw [List.countP_append, hheld.result, Profile.countP_compare_result,
      Profile.returns_compare]
    exact length_betweenResults?_add _ _ hshape.result

/-- The observation of a definite call keeps a survey recorded. -/
theorem Recorded.observe {survey : Survey} (h : survey.Recorded) {leaf : Leaf}
    (hshape : leaf.shape.Definite) : (survey.observe leaf).Recorded := by
  constructor
  · intro function profile hprofile
    by_cases hsame : function = leaf.property
    · subst hsame
      cases hheld : survey.profiles.get? leaf.property with
      | none =>
          have hrecords := h.records_of_new hshape hheld
          rw [observe_of_new hheld, Table.get?_put_self, Option.some.injEq] at hprofile
          exact hprofile ▸ hrecords
      | some held =>
          have hrecords := h.records_of_known hshape hheld
          rw [observe_of_known hheld, Table.get?_put_self, Option.some.injEq] at hprofile
          exact hprofile ▸ hrecords
    -- Neither the profile nor the conflicts of another function change.
    · rw [get?_observe_of_ne survey hsame] at hprofile
      have hrecords := h.seen function profile hprofile
      constructor
      · intro name
        rw [countP_observe_of_ne survey _ hsame, hrecords.parameter]
      · rw [countP_observe_of_ne survey _ hsame, hrecords.result]
  · intro function hunseen slot
    have hne : function ≠ leaf.property := by
      rintro rfl
      rcases covers_observe survey leaf with ⟨profile, hprofile, -⟩
      rw [hunseen] at hprofile
      contradiction
    rw [get?_observe_of_ne survey hne] at hunseen
    rw [countP_observe_of_ne survey _ hne]
    exact h.unseen function hunseen slot

/-- The survey of tests with definite calls is recorded. -/
theorem recorded_ofLeaves {leaves : List Leaf} (h : ∀ leaf ∈ leaves, leaf.shape.Definite) :
    (ofLeaves leaves).Recorded := by
  revert h
  refine ofLeaves_induction (motive := fun leaves survey =>
    (∀ leaf ∈ leaves, leaf.shape.Definite) → survey.Recorded) (fun _ => recorded_empty) ?_ leaves
  intro leaves last ih h
  have hearlier : (ofLeaves leaves).Recorded :=
    ih fun leaf hmem => h leaf (List.mem_append_left _ hmem)
  exact hearlier.observe (h last (by simp))

/-- If a survey is recorded, a conflict is over a function that has a profile, and over a parameter
of the profile. -/
theorem Recorded.exists_profile {survey : Survey} (h : survey.Recorded) {conflict : Conflict}
    (hmem : conflict ∈ survey.conflicts) :
    ∃ profile, survey.profiles.get? conflict.function = some profile ∧
      ∀ name, conflict.slot = .parameter name → name ∈ profile.parameters.keys := by
  have hcounted :
      0 < survey.conflicts.countP (Conflict.concerns conflict.function conflict.slot) := by
    rw [List.countP_pos_iff]
    exact ⟨conflict, hmem, by simp⟩
  cases hprofile : survey.profiles.get? conflict.function with
  | none =>
      have hzero := h.unseen conflict.function hprofile conflict.slot
      omega
  | some profile =>
      refine ⟨profile, rfl, fun name hslot => ?_⟩
      rw [hslot, (h.seen conflict.function profile hprofile).parameter name] at hcounted
      have hunknown : profile.parameters.get? name = some .unknown := by
        by_contra hother
        simp [hother] at hcounted
      exact (profile.parameters.mem_keys_iff name).mpr ⟨.unknown, hunknown⟩

end Survey
end Casebook
