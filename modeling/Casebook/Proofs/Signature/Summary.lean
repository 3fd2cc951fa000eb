import Casebook.Proofs.Signature.Agreement

/-!
# What a signature sums up

The survey keeps no test; it widens what it holds of a function test by test.  In the end every
signature can nevertheless be told from the tests of its function alone, in one look: which
parameters it has and in which order, which of them are of one kind in all tests, and which kind all
definite results have.

Main definitions:

- {lit}`testsOf`: the tests of a function.
- {lit}`AllTake`: all tests pass an input of one kind.
- {lit}`AllReturn`: all tests that expect a result expect one kind of result, and some does.
- {lit}`Signature.SumsUp`: a signature tells what some tests have in common.

Main results:

- Theorem {lit}`Profile.keys_ofCalls`: the parameters are the inputs of all calls, in the order in
  which they first occur.
- Theorem {lit}`Profile.returns_ofCalls_eq_some_iff`: a definite result is held exactly if all calls
  that show a result show this one, and some does.
- Theorem {lit}`infer_sums_up`: there is one signature for every function, and it sums up the tests of
  the function.
-/

namespace Casebook

/-! ## The names of the parameters -/

/-- The names after a put are the first occurrences among the old names and the new one. -/
theorem Table.keys_put_eq_eraseDups {α : Type} (t : Table α) (key : String) (value : α) :
    (t.put key value).keys = (t.keys ++ [key]).eraseDups := by
  rw [keys_put, eraseDups_append_singleton, eraseDups_of_nodup t.nodup_keys]

namespace Profile

/-- One input of a call adds its name, unless there is a parameter of this name. -/
theorem keys_widenAt (held : Table Kind) (name : String) (observed : Kind) :
    (widenAt held name observed).keys = (held.keys ++ [name]).eraseDups := by
  unfold widenAt
  split <;> rename_i h
  · have hmem : name ∈ held.keys := by
      rw [Table.mem_keys_iff]
      rcases h with h | h <;> exact ⟨_, h⟩
    rw [eraseDups_append_singleton, if_pos hmem, eraseDups_of_nodup held.nodup_keys]
  · exact held.keys_put_eq_eraseDups name .unknown

/-- The inputs of a call add their names in their order, as far as these are new. -/
theorem keys_compareInputs (function : String) (held : Table Kind)
    (inputs : List (String × Kind)) :
    (compareInputs function held inputs).1.keys =
      (held.keys ++ inputs.map Prod.fst).eraseDups := by
  induction inputs generalizing held with
  | nil =>
      rw [List.map_nil, List.append_nil, eraseDups_of_nodup held.nodup_keys]
      rfl
  | cons input rest ih =>
      rcases input with ⟨name, observed⟩
      rw [compareInputs_cons, ih, keys_widenAt, eraseDups_eraseDups_append, List.append_assoc]
      rfl

/-- The parameters after a comparison are those held before, followed by the inputs of the call that
are new. -/
theorem keys_compare (function : String) (profile : Profile) (shape : CallShape) :
    (profile.compare function shape).1.parameters.keys =
      (profile.parameters.keys ++ shape.inputs.keys).eraseDups := by
  simp only [compare, compareParameters, Table.keys_mapValues]
  exact keys_compareInputs function profile.parameters shape.inputs.entries

variable {function : String} {shapes : List CallShape} {profile : Profile}

/-- The parameters are the inputs of all calls, in the order in which they first occur. -/
theorem keys_ofCalls (h : ofCalls function shapes = some profile) :
    profile.parameters.keys = (shapes.flatMap fun shape => shape.inputs.keys).eraseDups := by
  refine ofCalls_induction (motive := fun shapes profile => profile.parameters.keys =
    (shapes.flatMap fun shape => shape.inputs.keys).eraseDups) ?_ ?_ h
  · intro shape
    rw [List.flatMap_singleton]
    exact (eraseDups_of_nodup shape.inputs.nodup_keys).symm
  · intro shapes profile shape ih
    rw [keys_compare, ih, eraseDups_eraseDups_append, List.flatMap_append, List.flatMap_singleton]

/-! ## The result -/

/-- A definite result is held exactly if some call shows a result and all calls that do show this
one. -/
theorem returns_ofCalls_eq_some_iff (h : ofCalls function shapes = some profile) {kind : Kind}
    (hknown : kind ≠ .unknown) :
    profile.returns = some kind ↔
      (∃ shape ∈ shapes, shape.returns ≠ none) ∧
        ∀ shape ∈ shapes, shape.returns = none ∨ shape.returns = some kind := by
  have hsome : (∃ shape ∈ shapes, shape.returns ≠ none) ↔ profile.returns ≠ none := by
    rw [Ne, returns_ofCalls_eq_none_iff h]
    push Not
    rfl
  rw [hsome, ← returns_ofCalls_none_or_iff h hknown]
  cases profile.returns <;> simp

end Profile

/-! ## Tests and their signature -/

/-- The tests of a function, in their order. -/
def testsOf (leaves : List Leaf) (function : String) : List Leaf :=
  leaves.filter fun leaf => leaf.property == function

/-- The calls of a function are those of its tests. -/
theorem map_shape_testsOf (leaves : List Leaf) (function : String) :
    (testsOf leaves function).map Leaf.shape = callsOf leaves function :=
  rfl

/-- The kind of an input of a test; none if the test has no such input. -/
def Leaf.inputKind? (leaf : Leaf) (name : String) : Option Kind :=
  (leaf.input.get? name).map Value.kind

/-- The call of a test shows the inputs of the test in their order. -/
@[simp]
theorem Leaf.keys_inputs_shape (leaf : Leaf) : leaf.shape.inputs.keys = leaf.input.keys :=
  Table.keys_mapValues _ leaf.input

/-- The call of a test shows the kinds of its inputs. -/
theorem Leaf.get?_inputs_shape (leaf : Leaf) (name : String) :
    leaf.shape.inputs.get? name = leaf.inputKind? name := by
  simp [shape, inputKind?]

/-- All tests pass an input of one kind. -/
def AllTake (tests : List Leaf) (name : String) (kind : Kind) : Prop :=
  ∀ leaf ∈ tests, leaf.inputKind? name = some kind

/-- All tests that expect a result expect one of one kind, and there is such a test. -/
structure AllReturn (tests : List Leaf) (kind : Kind) : Prop where
  exists_result : ∃ leaf ∈ tests, leaf.expected.isError = false
  all : ∀ leaf ∈ tests, leaf.expected.isError = false → leaf.expected.kind = kind

/-- A signature tells what some tests have in common. -/
structure Signature.SumsUp (signature : Signature) (tests : List Leaf) : Prop where
  /-- The parameters are the inputs of the tests one after another, without repetitions. -/
  parameters :
    signature.parameters.keys = (tests.flatMap fun leaf => leaf.input.keys).eraseDups
  parameter : ∀ name kind, kind ≠ .unknown →
    (signature.parameters.get? name = some kind ↔ AllTake tests name kind)
  parameter_unknown : ∀ name ∈ signature.parameters.keys,
    (∀ kind, kind ≠ .unknown → ¬ AllTake tests name kind) →
      signature.parameters.get? name = some .unknown
  returns : ∀ kind, kind ≠ .unknown → (signature.returns = kind ↔ AllReturn tests kind)
  returns_unknown : (∀ kind, kind ≠ .unknown → ¬ AllReturn tests kind) →
    signature.returns = .unknown

namespace Profile

variable {function : String} {tests : List Leaf} {profile : Profile}

/-- The signature of a profile that some tests come to has the kind that all of them pass. -/
theorem allTake_iff (h : ofCalls function (tests.map Leaf.shape) = some profile) (name : String)
    {kind : Kind} (hknown : kind ≠ .unknown) :
    profile.parameters.get? name = some kind ↔ AllTake tests name kind := by
  have hdefinite : some kind ≠ some Kind.unknown := by simpa using hknown
  rw [parameter_ofCalls_iff h name hdefinite, List.forall_mem_map]
  simp only [Leaf.get?_inputs_shape]
  rfl

/-- The signature of a profile that some tests come to returns what all of them expect. -/
theorem allReturn_iff (h : ofCalls function (tests.map Leaf.shape) = some profile) {kind : Kind}
    (hknown : kind ≠ .unknown) :
    (profile.signature function).returns = kind ↔ AllReturn tests kind := by
  have hreturns : (profile.signature function).returns = kind ↔ profile.returns = some kind := by
    cases hheld : profile.returns <;> simp [signature, hheld, Ne.symm hknown]
  rw [hreturns, returns_ofCalls_eq_some_iff h hknown, List.forall_mem_map]
  constructor
  · rintro ⟨hsome, hall⟩
    constructor
    case exists_result => simpa [Leaf.shape] using hsome
    case all =>
      intro leaf hmem hresult
      simpa [Leaf.shape, hresult] using hall leaf hmem
  · intro hall
    refine ⟨by simpa [Leaf.shape] using hall.exists_result, fun leaf hmem => ?_⟩
    cases hresult : leaf.expected.isError with
    | true => simp [Leaf.shape, hresult]
    | false => simp [Leaf.shape, hresult, hall.all leaf hmem hresult]

/-- The signature of a profile sums up the tests that come to it. -/
theorem sumsUp (h : ofCalls function (tests.map Leaf.shape) = some profile) :
    (profile.signature function).SumsUp tests := by
  constructor
  case parameters =>
    have hkeys := keys_ofCalls h
    simp only [List.flatMap_map, Leaf.keys_inputs_shape] at hkeys
    exact hkeys
  case parameter => exact fun name kind hknown => allTake_iff h name hknown
  case parameter_unknown =>
    intro name hmem hnone
    rcases (Table.mem_keys_iff _ name).mp hmem with ⟨kind, hkind⟩
    by_contra hother
    have hknown : kind ≠ .unknown := fun hunknown => hother (hunknown ▸ hkind)
    exact hnone kind hknown ((allTake_iff h name hknown).mp hkind)
  case returns => exact fun kind hknown => allReturn_iff h hknown
  case returns_unknown =>
    intro hnone
    by_contra hknown
    exact hnone _ hknown ((allReturn_iff h hknown).mp rfl)

end Profile

/-- There is one signature for every function that some test calls, in the order of the first tests,
and every signature sums up the tests of its function. -/
theorem infer_sums_up (leaves : List Leaf) :
    (infer leaves).signatures.map Signature.name = (leaves.map Leaf.property).eraseDups ∧
      ∀ signature ∈ (infer leaves).signatures,
        signature.SumsUp (testsOf leaves signature.name) := by
  refine ⟨names_infer_eq_eraseDups leaves, fun signature hmem => ?_⟩
  rcases (mem_signatures_infer_iff leaves signature).mp hmem with
    ⟨function, profile, hprofile, rfl⟩
  rw [Survey.get?_ofLeaves, ← map_shape_testsOf] at hprofile
  exact Profile.sumsUp hprofile

end Casebook
