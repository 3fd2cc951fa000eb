import Casebook.Proofs.FirstOccurrences
import Casebook.Proofs.Signature.Comparison
import Mathlib.Data.List.Induction

/-!
# What a survey holds

A survey reads the tests from left to right and looks at one profile at a time.  Its properties are
invariants: they hold of the survey of no tests, and an observation keeps them.

Main definitions:

- {lit}`Profile.Covers`: a profile agrees with a call wherever it holds something definite.

Main results:

- Theorem {lit}`Survey.ofLeaves_induction`: how such invariants are proved.
- Theorem {lit}`Survey.covers_ofLeaves`: whatever comes later, every test that was surveyed is
  covered by the profile of its function.
- Theorem {lit}`mem_signatures_infer_iff`: the signatures are those of the profiles.
- Theorem {lit}`names_infer_eq_eraseDups`: there is one signature for every function that is called,
  in the order of the first calls.
-/

namespace Casebook
namespace Survey

/-! ## One observation -/

/-- The first call of a function sets its profile. -/
theorem observe_of_new {survey : Survey} {leaf : Leaf}
    (h : survey.profiles.get? leaf.property = none) :
    survey.observe leaf =
      ⟨survey.profiles.put leaf.property (.ofShape leaf.shape), survey.conflicts⟩ := by
  simp [observe, h]

/-- A later call of a function is compared with its profile. -/
theorem observe_of_known {survey : Survey} {leaf : Leaf} {held : Profile}
    (h : survey.profiles.get? leaf.property = some held) :
    survey.observe leaf =
      ⟨survey.profiles.put leaf.property (held.compare leaf.property leaf.shape).1,
        survey.conflicts ++ (held.compare leaf.property leaf.shape).2⟩ := by
  simp [observe, h]

/-- An observation concerns the profile of one function only. -/
theorem get?_observe_of_ne (survey : Survey) {leaf : Leaf} {function : String}
    (h : function ≠ leaf.property) :
    (survey.observe leaf).profiles.get? function = survey.profiles.get? function := by
  cases hheld : survey.profiles.get? leaf.property with
  | none => rw [observe_of_new hheld, Table.get?_put_of_ne _ _ h]
  | some held => rw [observe_of_known hheld, Table.get?_put_of_ne _ _ h]

/-- An observation causes conflicts over one function only. -/
theorem countP_observe_of_ne (survey : Survey) {leaf : Leaf} {function : String} (slot : Slot)
    (h : function ≠ leaf.property) :
    (survey.observe leaf).conflicts.countP (Conflict.concerns function slot) =
      survey.conflicts.countP (Conflict.concerns function slot) := by
  cases hheld : survey.profiles.get? leaf.property with
  | none => rw [observe_of_new hheld]
  | some held =>
      have hzero : (held.compare leaf.property leaf.shape).2.countP
          (Conflict.concerns function slot) = 0 := by
        rw [List.countP_eq_zero]
        intro conflict hmem
        rw [Conflict.concerns_eq_true_iff, Profile.function_of_mem_compare hmem]
        exact fun hsame => h hsame.1.symm
      rw [observe_of_known hheld, List.countP_append, hzero, Nat.add_zero]

/-- What holds of the survey of no tests and is kept by every observation holds of the survey of
any tests. -/
theorem ofLeaves_induction {motive : List Leaf → Survey → Prop} (empty : motive [] .empty)
    (observe : ∀ leaves leaf, motive leaves (ofLeaves leaves) →
      motive (leaves ++ [leaf]) ((ofLeaves leaves).observe leaf)) (leaves : List Leaf) :
    motive leaves (ofLeaves leaves) := by
  induction leaves using List.reverseRecOn with
  | nil => exact empty
  | append_singleton leaves leaf ih =>
      rw [ofLeaves_append_singleton]
      exact observe leaves leaf ih

end Survey

/-! ## Coverage -/

/-- A profile agrees with a call wherever it holds something definite. -/
structure Profile.Covers (profile : Profile) (shape : CallShape) : Prop where
  parameter : ∀ name, profile.parameters.get? name = shape.inputs.get? name ∨
    profile.parameters.get? name = some .unknown
  result : ∀ kind, shape.returns = some kind →
    profile.returns = some kind ∨ profile.returns = some .unknown

namespace Profile

/-- The profile that a call sets covers it. -/
theorem covers_ofShape (shape : CallShape) : (ofShape shape).Covers shape :=
  ⟨fun _ => Or.inl rfl, fun _ h => Or.inl h⟩

/-- The profile after a comparison covers the call. -/
theorem covers_compare (function : String) (profile : Profile) (shape : CallShape) :
    (profile.compare function shape).1.Covers shape := by
  constructor
  · intro name
    rw [get?_compare]
    exact Kind.widen_eq_or _ _
  · intro kind hkind
    rw [returns_compare, hkind]
    exact Kind.widenResult_some _ _

/-- A comparison keeps covered what was covered before. -/
theorem Covers.compare {profile : Profile} {earlier : CallShape} (h : profile.Covers earlier)
    (function : String) (shape : CallShape) :
    (profile.compare function shape).1.Covers earlier := by
  constructor
  · intro name
    rw [get?_compare]
    rcases Kind.widen_eq_held_or (profile.parameters.get? name) (shape.inputs.get? name) with
      hheld | hunknown
    · rw [hheld]
      exact h.parameter name
    · exact Or.inr hunknown
  · intro kind hkind
    rw [returns_compare]
    rcases h.result kind hkind with hheld | hheld
    · rw [hheld]
      exact Kind.widenResult_held _ _
    · rw [hheld]
      rcases Kind.widenResult_held .unknown shape.returns with hunknown | hunknown <;>
        exact Or.inr hunknown

end Profile

namespace Survey

/-- A test is covered by the profile of its function. -/
def Covers (survey : Survey) (leaf : Leaf) : Prop :=
  ∃ profile, survey.profiles.get? leaf.property = some profile ∧ profile.Covers leaf.shape

/-- A test that has just been observed is covered. -/
theorem covers_observe (survey : Survey) (leaf : Leaf) : (survey.observe leaf).Covers leaf := by
  cases hheld : survey.profiles.get? leaf.property with
  | none =>
      refine ⟨.ofShape leaf.shape, ?_, Profile.covers_ofShape leaf.shape⟩
      rw [observe_of_new hheld, Table.get?_put_self]
  | some held =>
      refine ⟨(held.compare leaf.property leaf.shape).1, ?_, Profile.covers_compare _ _ _⟩
      rw [observe_of_known hheld, Table.get?_put_self]

/-- An observation keeps covered what was covered before. -/
theorem Covers.observe {survey : Survey} {earlier : Leaf} (h : survey.Covers earlier)
    (leaf : Leaf) : (survey.observe leaf).Covers earlier := by
  rcases h with ⟨profile, hprofile, hcovers⟩
  by_cases hsame : earlier.property = leaf.property
  · refine ⟨(profile.compare leaf.property leaf.shape).1, ?_, hcovers.compare _ _⟩
    rw [hsame] at hprofile ⊢
    rw [observe_of_known hprofile, Table.get?_put_self]
  · refine ⟨profile, ?_, hcovers⟩
    rw [get?_observe_of_ne survey hsame, hprofile]

/-- Every test that was surveyed is covered, whatever comes later. -/
theorem covers_ofLeaves (leaves : List Leaf) : ∀ leaf ∈ leaves, (ofLeaves leaves).Covers leaf := by
  refine ofLeaves_induction (motive := fun leaves survey => ∀ leaf ∈ leaves, survey.Covers leaf)
    (by simp) ?_ leaves
  intro leaves last ih leaf hmem
  rw [List.mem_append, List.mem_singleton] at hmem
  rcases hmem with hearlier | rfl
  · exact (ih leaf hearlier).observe last
  · exact covers_observe _ leaf

/-- The entries of the profiles are the functions with what is held of them. -/
theorem mem_signatures_result_iff (survey : Survey) (signature : Signature) :
    signature ∈ survey.result.signatures ↔
      ∃ function profile, survey.profiles.get? function = some profile ∧
        signature = profile.signature function := by
  simp only [result, List.mem_map, Table.get?_eq_some_iff]
  constructor
  · intro h
    rcases h with ⟨⟨function, profile⟩, hmem, rfl⟩
    exact ⟨function, profile, hmem, rfl⟩
  · intro h
    rcases h with ⟨function, profile, hmem, rfl⟩
    exact ⟨(function, profile), hmem, rfl⟩

end Survey

/-- The signatures that are inferred are those of the profiles. -/
theorem mem_signatures_infer_iff (leaves : List Leaf) (signature : Signature) :
    signature ∈ (infer leaves).signatures ↔
      ∃ function profile, (Survey.ofLeaves leaves).profiles.get? function = some profile ∧
        signature = profile.signature function :=
  Survey.mem_signatures_result_iff (Survey.ofLeaves leaves) signature

/-- The names of the signatures are the functions that have a profile, in their order. -/
theorem names_infer (leaves : List Leaf) :
    (infer leaves).signatures.map Signature.name = (Survey.ofLeaves leaves).profiles.keys := by
  simp [infer, Survey.result, Profile.signature, Table.keys]

/-- An observation gives a profile to the function of the test, if it has none yet. -/
theorem Survey.keys_observe (survey : Survey) (leaf : Leaf) :
    (survey.observe leaf).profiles.keys =
      if leaf.property ∈ survey.profiles.keys then survey.profiles.keys
      else survey.profiles.keys ++ [leaf.property] := by
  cases hheld : survey.profiles.get? leaf.property with
  | none => rw [observe_of_new hheld, Table.keys_put]
  | some held => rw [observe_of_known hheld, Table.keys_put]

/-- The functions that have a profile are those that some test calls, in the order of their first
tests. -/
theorem Survey.keys_ofLeaves (leaves : List Leaf) :
    (ofLeaves leaves).profiles.keys = (leaves.map Leaf.property).eraseDups := by
  refine ofLeaves_induction
    (motive := fun leaves survey => survey.profiles.keys = (leaves.map Leaf.property).eraseDups)
    rfl ?_ leaves
  intro leaves leaf ih
  rw [keys_observe, ih, List.map_append, List.map_singleton, eraseDups_append_singleton]
  simp only [List.mem_eraseDups]

/-- There is one signature for every function that some test calls, in the order of the first
tests. -/
theorem names_infer_eq_eraseDups (leaves : List Leaf) :
    (infer leaves).signatures.map Signature.name = (leaves.map Leaf.property).eraseDups := by
  rw [names_infer, Survey.keys_ofLeaves]

end Casebook
