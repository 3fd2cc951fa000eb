import Casebook.Signature.Basic

/-!
# Inference of signatures

The tests are surveyed one after another.  The first call of a function sets its profile; a later
call that disagrees with the profile on an input or on the result widens what is held there to
{lit}`unknown`, and the disagreement is recorded.  What is {lit}`unknown` stays so and causes no
further conflict.

Main definitions:

- {lit}`Profile`: what the calls of one function have shown so far.
- {lit}`Survey`: the profiles of all functions and the conflicts so far.
- {lit}`Survey.observe`: the survey after one more test.
- {lit}`infer`: the signatures and conflicts of a list of tests.

Main results:

- Theorem {lit}`Survey.ofLeaves_append_singleton`: a survey of one more test is one observation
  more.
-/

namespace Casebook

/-- What the calls of one function have shown so far. -/
structure Profile where
  parameters : Table Kind
  /-- None until a call that does not fail is seen. -/
  returns : Option Kind
  deriving DecidableEq, Repr, Inhabited

namespace Profile

/-- The profile that a first call sets. -/
def ofShape (shape : CallShape) : Profile :=
  ⟨shape.inputs, shape.returns⟩

/-! ## Disagreement -/

/-- Compare the inputs of a call with the parameters held: an input of another kind and an input
not seen before become unknown. -/
def compareInputs (function : String) (held : Table Kind) :
    List (String × Kind) → Table Kind × List Conflict
  | [] => (held, [])
  | (name, observed) :: rest =>
      let previous := held.get? name
      if previous = some observed ∨ previous = some .unknown then
        compareInputs function held rest
      else
        let (held, conflicts) := compareInputs function (held.put name .unknown) rest
        (held, ⟨function, .parameter name, previous, some observed⟩ :: conflicts)

/-- The conflict over a parameter that a call lacks, unless the parameter is unknown already. -/
def lacking? (function : String) (inputs : Table Kind) (parameter : String × Kind) :
    Option Conflict :=
  if parameter.2 ≠ .unknown ∧ !inputs.contains parameter.1 then
    some ⟨function, .parameter parameter.1, some parameter.2, none⟩
  else
    none

/-- Compare the parameters held with the inputs of a call: a parameter that the call lacks becomes
unknown. -/
def compareParameters (function : String) (inputs held : Table Kind) :
    Table Kind × List Conflict :=
  (held.mapValues fun name kind => if inputs.contains name then kind else .unknown,
    held.entries.filterMap (lacking? function inputs))

/-- Compare the result of a call with the one held: a result of another kind becomes unknown, and
the first result is taken as it is. -/
def compareResult (function : String) (held observed : Option Kind) :
    Option Kind × List Conflict :=
  match held, observed with
  | held, none => (held, [])
  | none, some kind => (some kind, [])
  | some previous, some kind =>
      if previous = kind ∨ previous = .unknown then
        (some previous, [])
      else
        (some .unknown, [⟨function, .result, some previous, some kind⟩])

/-- The profile after one more call, and the conflicts that the call causes: those over its inputs
first, then those over parameters that it lacks, then the one over its result. -/
def compare (function : String) (profile : Profile) (shape : CallShape) :
    Profile × List Conflict :=
  let (seen, inputConflicts) := compareInputs function profile.parameters shape.inputs.entries
  let (parameters, lackConflicts) := compareParameters function shape.inputs seen
  let (returns, resultConflicts) := compareResult function profile.returns shape.returns
  (⟨parameters, returns⟩, inputConflicts ++ lackConflicts ++ resultConflicts)

/-- The signature of a function with this profile.  A result that no call has shown is unknown. -/
def signature (name : String) (profile : Profile) : Signature :=
  ⟨name, profile.parameters, profile.returns.getD .unknown⟩

end Profile

/-- The profiles of all functions in the order of their first calls, and all conflicts so far. -/
structure Survey where
  profiles : Table Profile
  conflicts : List Conflict
  deriving DecidableEq, Repr, Inhabited

/-- The signatures of the functions under test, and the conflicts between their calls. -/
structure Inferred where
  signatures : List Signature
  conflicts : List Conflict
  deriving DecidableEq, Repr, Inhabited

namespace Survey

/-- Nothing has been surveyed. -/
def empty : Survey :=
  ⟨.empty, []⟩

/-- The survey after one more test. -/
def observe (survey : Survey) (leaf : Leaf) : Survey :=
  match survey.profiles.get? leaf.property with
  | none =>
      { survey with profiles := survey.profiles.put leaf.property (.ofShape leaf.shape) }
  | some held =>
      let (profile, conflicts) := held.compare leaf.property leaf.shape
      ⟨survey.profiles.put leaf.property profile, survey.conflicts ++ conflicts⟩

/-- The survey of a list of tests. -/
def ofLeaves (leaves : List Leaf) : Survey :=
  leaves.foldl observe empty

/-- A survey of one more test is one observation more. -/
theorem ofLeaves_append_singleton (leaves : List Leaf) (leaf : Leaf) :
    ofLeaves (leaves ++ [leaf]) = (ofLeaves leaves).observe leaf := by
  simp [ofLeaves]

/-- What a survey has found out. -/
def result (survey : Survey) : Inferred where
  signatures := survey.profiles.entries.map fun entry => entry.2.signature entry.1
  conflicts := survey.conflicts

end Survey

/-- The signatures of the functions under test, and the conflicts between their calls. -/
def infer (leaves : List Leaf) : Inferred :=
  (Survey.ofLeaves leaves).result

/-- The functions whose calls disagree. -/
def Inferred.conflictedFunctions (inferred : Inferred) : List String :=
  Conflict.functions inferred.conflicts

end Casebook
