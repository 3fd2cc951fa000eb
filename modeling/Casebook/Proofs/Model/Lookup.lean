import Casebook.Proofs.FirstOccurrences
import Casebook.Proofs.Model.Conservation

/-!
# Signatures are found under the names of their functions

A test can be bound only if its function has a signature, and it is bound to the last one with the
name, while a model finds the first.  Both ways of looking lead to the same signature, because the
tests are surveyed before any is bound: there is one signature for every function that a test calls,
whether or not the test is expected to fail.

Main definitions:

- {lit}`Json.functions`: the functions that the tests of a document call.
- {lit}`Model.FindsFunctions`: a model finds the signatures of the functions that are called.

Main results:

- Theorem {lit}`DocumentOf.functions_eq`: the functions that the tests call are those that the
  objects name.
- Theorem {lit}`BuiltFrom.signature?_eq_last`: the first signature with a name is the last one.
- Theorem {lit}`build_findsFunctions`: no test is left unbound, and every model finds exactly the
  functions that are called.
-/

namespace Casebook

/-! ## Functions that are called -/

/-- The function that the test of an object calls. -/
def calledFunction? (fields : Fields) : Option String :=
  match fields.lookup "property" with
  | some (.string name) => some name
  | _ => none

/-- The functions that the tests at or below a value call, from left to right, as often as they are
called. -/
def Json.functions (raw : Json) : List String :=
  raw.leafObjects.filterMap calledFunction?

/-- The object of a test names the function that the test calls. -/
theorem LeafOf.calledFunction?_eq {fields : Fields} {leaf : Leaf} (h : LeafOf fields leaf) :
    calledFunction? fields = some leaf.property := by
  rw [calledFunction?, h.property]

/-- The objects of some tests name the functions that the tests call, one by one. -/
theorem filterMap_calledFunction? {objects : List Fields} {leaves : List Leaf}
    (h : List.Forall₂ LeafOf objects leaves) :
    objects.filterMap calledFunction? = leaves.map Leaf.property := by
  induction h with
  | nil => rfl
  | cons hleaf _ ih => rw [List.filterMap_cons_some hleaf.calledFunction?_eq, List.map_cons, ih]

/-- The functions that the tests of a document call are those that their objects name. -/
theorem DocumentOf.functions_eq {raw : Json} {document : Document} (h : DocumentOf raw document) :
    raw.functions = document.leaves.map Leaf.property :=
  filterMap_calledFunction? h.leafOf_leaves

/-! ## Looking signatures up -/

/-- A model finds the signatures of the functions that the tests of a value call, and no others. -/
structure Model.FindsFunctions (model : Model) (raw : Json) : Prop where
  /-- There is one signature for every function that is called, in the order of the first calls. -/
  names : model.signatures.map Signature.name = raw.functions.eraseDups
  distinct : (model.signatures.map Signature.name).Nodup
  parameters : ∀ signature ∈ model.signatures, signature.parameters.keys.Nodup
  /-- A test case has the one signature that is found under the function that its object names. -/
  testCases : List.Forall₂
    (fun fields testCase => ∃ name, calledFunction? fields = some name ∧
      testCase.signature ∈ model.signatures ∧ testCase.signature.name = name ∧
      model.signature? name = some testCase.signature)
    (raw.leafObjects.filter fun fields => ¬ ExpectsFailure fields) model.testCases
  /-- The first signature with a name is the last one. -/
  lookup : ∀ name, model.signature? name = lastSignature? model.signatures name
  /-- Any test, also one of another document, would be bound to the signature that is found. -/
  bound : ∀ leaf testCase, bindLeaf model.signatures leaf = .ok testCase ↔
    ∃ signature, model.signature? leaf.property = some signature ∧
      testCase = leaf.toTestCase signature
  /-- Nothing is found under a name that no test calls, and only there. -/
  absent : ∀ name, model.signature? name = none ↔ name ∉ raw.functions

namespace BuiltFrom

variable {document : Document} {outcome : Outcome}

/-- There is one signature for every function that the tests call, in the order of the first
calls. -/
theorem names_eq (h : BuiltFrom document outcome) :
    outcome.model.signatures.map Signature.name =
      (document.leaves.map Leaf.property).eraseDups := by
  rw [h.signatures, names_infer_eq_eraseDups]

/-- No two signatures have the same name. -/
theorem nodup_names (h : BuiltFrom document outcome) :
    (outcome.model.signatures.map Signature.name).Nodup := by
  rw [h.signatures]
  exact nodup_names_infer document.leaves

/-- The first signature with a name is the last one. -/
theorem signature?_eq_last (h : BuiltFrom document outcome) (name : String) :
    outcome.model.signature? name = lastSignature? outcome.model.signatures name := by
  rw [lastSignature?_eq_find?]
  exact (find?_reverse_of_nodup h.nodup_names name).symm

/-- A signature is found under a name exactly if it is the one with the name. -/
theorem signature?_eq_some_iff (h : BuiltFrom document outcome) (name : String)
    (signature : Signature) :
    outcome.model.signature? name = some signature ↔
      signature ∈ outcome.model.signatures ∧ signature.name = name :=
  find?_eq_some_iff_of_nodup h.nodup_names name signature

/-- Nothing is found under a name exactly if no test calls a function with the name. -/
theorem signature?_eq_none_iff (h : BuiltFrom document outcome) (name : String) :
    outcome.model.signature? name = none ↔ name ∉ document.leaves.map Leaf.property := by
  have hmem : name ∈ document.leaves.map Leaf.property ↔
      name ∈ outcome.model.signatures.map Signature.name := by
    rw [h.names_eq, List.mem_eraseDups]
  rw [hmem, Model.signature?, List.find?_eq_none, List.mem_map]
  simp

/-- A test is bound to the signature that is found under the name of its function. -/
theorem bindLeaf_eq_ok_iff (h : BuiltFrom document outcome) (leaf : Leaf) (testCase : TestCase) :
    bindLeaf outcome.model.signatures leaf = .ok testCase ↔
      ∃ signature, outcome.model.signature? leaf.property = some signature ∧
        testCase = leaf.toTestCase signature := by
  rw [Casebook.bindLeaf_eq_ok_iff, h.signature?_eq_last]
  rfl

/-- A model that is built from the document of a value finds the functions that the value calls. -/
theorem findsFunctions {raw : Json} (h : BuiltFrom document outcome)
    (hread : DocumentOf raw document) : outcome.model.FindsFunctions raw := by
  constructor
  case names => rw [h.names_eq, hread.functions_eq]
  case distinct => exact h.nodup_names
  case parameters => exact fun signature _ => signature.parameters.nodup_keys
  case testCases =>
    refine (ItemByItem.trans hread.leafOf_filter h.testCases).imp ?_
    rintro fields testCase ⟨leaf, hleaf, signature, hlast, rfl⟩
    have hfound : outcome.model.signature? leaf.property = some signature := by
      rw [h.signature?_eq_last, h.signatures]
      exact hlast
    rcases (h.signature?_eq_some_iff _ _).mp hfound with ⟨hmem, hname⟩
    exact ⟨leaf.property, hleaf.calledFunction?_eq, hmem, hname, hfound⟩
  case lookup => exact h.signature?_eq_last
  case bound => exact h.bindLeaf_eq_ok_iff
  case absent =>
    intro name
    rw [h.signature?_eq_none_iff, hread.functions_eq]

end BuiltFrom

/-! ## Models -/

/-- No test of a document is left unbound. -/
theorem build_ne_unbound (raw : Json) (missing : MissingSignature) :
    build raw ≠ .error (.unbound missing) := by
  intro hbuild
  rw [build] at hbuild
  cases hread : Document.ofJson raw with
  | error fault => simp [hread] at hbuild
  | ok document =>
      rcases exists_builtFrom document with ⟨outcome, hbuilt⟩
      have hok := (document.build_eq_ok_iff outcome).mpr hbuilt
      simp [hread, hok] at hbuild

/-- No test of a document is left unbound, and the model of every document finds the signatures of
exactly the functions that its tests call. -/
theorem build_findsFunctions (raw : Json) :
    (∀ missing, build raw ≠ .error (.unbound missing)) ∧
      ∀ outcome, build raw = .ok outcome → outcome.model.FindsFunctions raw := by
  constructor
  · exact build_ne_unbound raw
  · intro outcome hbuild
    rcases (build_eq_ok_iff raw outcome).mp hbuild with ⟨document, hread, hbuilt⟩
    exact hbuilt.findsFunctions hread

/-- The model of the small document finds a signature for the function that only fails, and none
for others. -/
theorem build_findsFunctions_sample :
    ∃ outcome, build sampleDocument = .ok outcome ∧
      sampleDocument.functions = ["add", "add", "divide"] ∧
      (outcome.model.signature? "divide").isSome ∧ outcome.model.signature? "multiply" = none ∧
      outcome.model.FindsFunctions sampleDocument := by
  have hbuild : ∃ outcome, build sampleDocument = .ok outcome ∧
      (outcome.model.signature? "divide").isSome ∧
      outcome.model.signature? "multiply" = none := ⟨_, rfl, rfl, rfl⟩
  rcases hbuild with ⟨outcome, houtcome, hfound, habsent⟩
  exact ⟨outcome, houtcome, rfl, hfound, habsent,
    (build_findsFunctions sampleDocument).2 outcome houtcome⟩

end Casebook
