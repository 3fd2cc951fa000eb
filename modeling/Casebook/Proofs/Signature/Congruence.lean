import Casebook.Proofs.Document.KeyOrder
import Casebook.Proofs.Signature.Agreement

/-!
# Tests that agree are inferred from alike

Two lists of tests that agree one by one show the same calls, except that the inputs are listed in
another order.  The survey of the one and that of the other then go side by side: the profiles
hold the same, and every observation causes the same conflicts, but for their order.

Main definitions:

- {lit}`CallShape.Agrees`, {lit}`Profile.Agrees`: two calls show the same, two profiles hold the
  same.
- {lit}`Survey.Agrees`: two surveys hold the same and have the same conflicts but for their order.
- {lit}`Inferred.Agrees`: two inferences have signatures that are equal one by one but for the order
  of their parameters, and the same conflicts but for their order.

Main results:

- Theorem {lit}`Profile.Agrees.perm_conflicts`: a comparison causes the same conflicts.
- Theorem {lit}`Survey.Agrees.observe`: an observation keeps surveys side by side.
- Theorem {lit}`agrees_infer`: tests that agree one by one are inferred from alike.
-/

namespace Casebook

/-- Two calls show the same. -/
structure CallShape.Agrees (shape twin : CallShape) : Prop where
  input : ∀ name, shape.inputs.get? name = twin.inputs.get? name
  returns : shape.returns = twin.returns

/-- Tests that agree show the same calls. -/
theorem Leaf.Agrees.shape {leaf twin : Leaf} (h : leaf.Agrees twin) :
    leaf.shape.Agrees twin.shape := by
  constructor
  · intro name
    have hinput := h.input name
    simp only [Leaf.shape, Table.get?_mapValues]
    cases hvalue : leaf.input.get? name with
    | none =>
        rw [hvalue] at hinput
        rw [ItemByItem.eq_none_of_rel hinput]
    | some value =>
        rw [hvalue] at hinput
        rcases ItemByItem.exists_of_rel_some hinput with ⟨other, hother, hsame⟩
        rw [hother, Option.map_some, Option.map_some, Value.kind_eq_of_same hsame]
  · simp only [Leaf.shape, Value.isError_eq_of_same h.expected, Value.kind_eq_of_same h.expected]

/-! ## Profiles -/

/-- Two profiles hold the same. -/
structure Profile.Agrees (profile twin : Profile) : Prop where
  parameter : ∀ name, profile.parameters.get? name = twin.parameters.get? name
  returns : profile.returns = twin.returns

namespace Profile

/-- Calls that show the same set profiles that hold the same. -/
theorem agrees_ofShape {shape other : CallShape} (h : shape.Agrees other) :
    (ofShape shape).Agrees (ofShape other) :=
  ⟨h.input, h.returns⟩

variable {profile twin : Profile} {shape other : CallShape}

/-- Profiles that hold the same still do after calls that show the same. -/
theorem Agrees.compare (h : profile.Agrees twin) (hshape : shape.Agrees other)
    (function : String) :
    (profile.compare function shape).1.Agrees (twin.compare function other).1 := by
  constructor
  · intro name
    rw [get?_compare, get?_compare, h.parameter, hshape.input]
  · rw [returns_compare, returns_compare, h.returns, hshape.returns]

/-- Calls that show the same cause the same conflicts with profiles that hold the same, but for the
order of the conflicts. -/
theorem Agrees.perm_conflicts (h : profile.Agrees twin) (hshape : shape.Agrees other)
    (function : String) :
    (profile.compare function shape).2.Perm (twin.compare function other).2 := by
  have hbetween : (fun input : String × Kind =>
        Conflict.between? function (.parameter input.1) (profile.parameters.get? input.1)
          (some input.2)) =
      fun input => Conflict.between? function (.parameter input.1)
        (twin.parameters.get? input.1) (some input.2) := by
    funext input
    rw [h.parameter]
  have hlacking : lacking? function shape.inputs = lacking? function other.inputs := by
    funext ⟨name, held⟩
    rw [lacking?_eq, lacking?_eq, hshape.input]
  have hseen : ∀ name,
      (compareInputs function profile.parameters shape.inputs.entries).1.get? name =
        (compareInputs function twin.parameters other.inputs.entries).1.get? name := by
    intro name
    have hinput : shape.inputs.entries.lookup name = other.inputs.entries.lookup name :=
      hshape.input name
    rw [get?_compareInputs _ _ shape.inputs.distinct, get?_compareInputs _ _ other.inputs.distinct,
      hinput, h.parameter]
  rw [conflicts_compare, conflicts_compare, hbetween, hlacking, h.returns, hshape.returns]
  have hinputs := (Table.entries_perm hshape.input).filterMap fun input =>
    Conflict.between? function (.parameter input.1) (twin.parameters.get? input.1) (some input.2)
  exact (hinputs.append ((Table.entries_perm hseen).filterMap _)).append_right _

end Profile

/-! ## Surveys -/

/-- Two surveys hold the same of the same functions in the same order, and have the same conflicts
but for their order. -/
structure Survey.Agrees (survey twin : Survey) : Prop where
  profiles : List.Forall₂ (SameName Profile.Agrees) survey.profiles.entries twin.profiles.entries
  conflicts : survey.conflicts.Perm twin.conflicts
  /-- The conflicts are over the same functions, one by one. -/
  functions : survey.conflicts.map Conflict.function = twin.conflicts.map Conflict.function

namespace Survey

/-- Surveys that agree still do after tests that agree. -/
theorem Agrees.observe {survey twin : Survey} (h : survey.Agrees twin) {leaf other : Leaf}
    (hleaf : leaf.Agrees other) : (survey.observe leaf).Agrees (twin.observe other) := by
  have hshape := hleaf.shape
  have hheld : Option.Rel Profile.Agrees (survey.profiles.get? leaf.property)
      (twin.profiles.get? other.property) :=
    hleaf.property ▸ ItemByItem.lookup h.profiles leaf.property
  cases hprofile : survey.profiles.get? leaf.property with
  | none =>
      rw [hprofile] at hheld
      have htwin := ItemByItem.eq_none_of_rel hheld
      rw [observe_of_new hprofile, observe_of_new htwin, hleaf.property]
      exact ⟨ItemByItem.putEntry h.profiles _ (Profile.agrees_ofShape hshape), h.conflicts,
        h.functions⟩
  | some profile =>
      rw [hprofile] at hheld
      rcases ItemByItem.exists_of_rel_some hheld with ⟨held, htwin, hagrees⟩
      rw [observe_of_known hprofile, observe_of_known htwin, hleaf.property]
      have hconflicts := hagrees.perm_conflicts hshape other.property
      refine ⟨ItemByItem.putEntry h.profiles _ (hagrees.compare hshape _),
        h.conflicts.append hconflicts, ?_⟩
      rw [List.map_append, List.map_append, h.functions, Profile.functions_compare,
        Profile.functions_compare, hconflicts.length_eq]

/-- Tests that agree one by one come to surveys that agree. -/
theorem agrees_ofLeaves {leaves others : List Leaf} (h : List.Forall₂ Leaf.Agrees leaves others) :
    (ofLeaves leaves).Agrees (ofLeaves others) := by
  exact List.rel_foldl (fun _ _ hsurvey _ _ hleaf => hsurvey.observe hleaf)
    (⟨.nil, .nil, rfl⟩ : Agrees empty empty) h

end Survey

/-! ## Inferences -/

/-- Two inferences have signatures that are equal one by one but for the order of parameters, and
the same conflicts but for their order. -/
structure Inferred.Agrees (inferred twin : Inferred) : Prop where
  signatures : List.Forall₂ Signature.Agrees inferred.signatures twin.signatures
  conflicts : inferred.conflicts.Perm twin.conflicts
  conflictedFunctions : inferred.conflictedFunctions = twin.conflictedFunctions

/-- Profiles that hold the same come to signatures that agree. -/
theorem Profile.Agrees.signature {profile twin : Profile} (h : profile.Agrees twin)
    (function : String) : (profile.signature function).Agrees (twin.signature function) :=
  ⟨rfl, h.parameter, congrArg (fun returns => returns.getD .unknown) h.returns⟩

/-- Tests that agree one by one are inferred from alike. -/
theorem agrees_infer {leaves others : List Leaf} (h : List.Forall₂ Leaf.Agrees leaves others) :
    (infer leaves).Agrees (infer others) := by
  have hsurvey := Survey.agrees_ofLeaves h
  refine ⟨?_, hsurvey.conflicts, ?_⟩
  · simp only [infer, Survey.result, List.forall₂_map_left_iff, List.forall₂_map_right_iff]
    refine hsurvey.profiles.imp ?_
    rintro ⟨function, profile⟩ ⟨other, twin⟩ ⟨hname, hprofile⟩
    simp only at hname hprofile
    subst hname
    exact hprofile.signature function
  · exact congrArg List.eraseDups hsurvey.functions

end Casebook
