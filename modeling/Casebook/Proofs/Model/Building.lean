import Casebook.Model.Build
import Casebook.Proofs.Document.LeafObjects
import Casebook.Proofs.Signature.Record
import Mathlib.Data.List.Nodup

/-!
# What a model is built from

A model is built from the tests of a document in three steps, and each step is described by what it
yields: the tests are read, the signatures are inferred from all of them, and those tests that do
not expect their call to fail are bound one by one.

Main definitions:

- {lit}`BoundTo`: the test case that a test comes to.
- {lit}`BuiltFrom`: the model and the warnings that a document comes to.

Main results:

- Theorem {lit}`lastSignature?_eq_find?`: the index holds the last signature with each name.
- Theorem {lit}`bindLeaves_eq_ok_iff`: the tests are bound one by one, in their order.
- Theorem {lit}`nodup_names_infer`: no two signatures have the same name.
- Theorem {lit}`exists_boundTo`: no test lacks a signature.
- Theorem {lit}`build_eq_ok_iff`: a model is built exactly from a value that comes to a document
  that comes to the model.
- Theorem {lit}`builtFrom_of_build`: the document in question is the one that is read.
- Theorem {lit}`exists_build_iff`: a model is built from all values that come to a document.
-/

namespace Casebook

/-! ## Binding -/

/-- A test comes to a test case with the last of the signatures that has the name of its
function. -/
def BoundTo (signatures : List Signature) (leaf : Leaf) (testCase : TestCase) : Prop :=
  ∃ signature, lastSignature? signatures leaf.property = some signature ∧
    testCase = leaf.toTestCase signature

/-- The signatures are found under their names as they are found one by one. -/
theorem lookup_named_eq_find? (signatures : List Signature) (name : String) :
    (signatures.map fun signature => (signature.name, signature)).lookup name =
      signatures.find? fun signature => signature.name == name := by
  induction signatures with
  | nil => rfl
  | cons signature signatures ih =>
      rw [List.map_cons, Table.lookup_cons_eq_ite, List.find?_cons, ih]
      by_cases h : name = signature.name
      · rw [if_pos h, beq_iff_eq.mpr h.symm]
      · rw [if_neg h, beq_eq_false_iff_ne.mpr (Ne.symm h)]

/-- The index holds the signature with a name that comes first from the end. -/
theorem lastSignature?_eq_find? (signatures : List Signature) (name : String) :
    lastSignature? signatures name =
      signatures.reverse.find? fun signature => signature.name == name := by
  rw [lastSignature?, signatureIndex, Table.get?_ofList, ← List.map_reverse,
    lookup_named_eq_find?]

/-- The last signature with a name is one of the signatures and has the name. -/
theorem mem_of_lastSignature?_eq_some {signatures : List Signature} {name : String}
    {signature : Signature} (h : lastSignature? signatures name = some signature) :
    signature ∈ signatures ∧ signature.name = name := by
  rw [lastSignature?_eq_find?] at h
  have hmem := List.mem_of_find?_eq_some h
  have hname := List.find?_some h
  exact ⟨List.mem_reverse.mp hmem, by simpa using hname⟩

/-- No signature is found under a name exactly if none bears it. -/
theorem lastSignature?_eq_none_iff (signatures : List Signature) (name : String) :
    lastSignature? signatures name = none ↔
      ∀ signature ∈ signatures, signature.name ≠ name := by
  simp [lastSignature?_eq_find?]

/-- A test is bound to the last signature with the name of its function. -/
theorem bindLeaf_eq_ok_iff (signatures : List Signature) (leaf : Leaf) (testCase : TestCase) :
    bindLeaf signatures leaf = .ok testCase ↔ BoundTo signatures leaf testCase := by
  unfold bindLeaf bindByIndex BoundTo lastSignature?
  cases (signatureIndex signatures).get? leaf.property with
  | none => simp
  | some signature => simp [eq_comm]

/-- The tests that do not expect their call to fail are bound one by one, in their order. -/
theorem bindLeaves_eq_ok_iff (signatures : List Signature) (leaves : List Leaf)
    (testCases : List TestCase) :
    bindLeaves signatures leaves = .ok testCases ↔
      List.Forall₂ (BoundTo signatures) (leaves.filter fun leaf => !leaf.expected.isError)
        testCases := by
  have hbind : (fun leaf testCase => bindByIndex (signatureIndex signatures) leaf = .ok testCase) =
      BoundTo signatures :=
    funext₂ fun leaf testCase => propext (bindLeaf_eq_ok_iff signatures leaf testCase)
  rw [bindLeaves, mapM_eq_ok_iff, hbind]

/-! ## Signatures with one name -/

/-- The names of the signatures are the functions that the tests call, each once. -/
theorem nodup_names_infer (leaves : List Leaf) :
    ((infer leaves).signatures.map Signature.name).Nodup := by
  rw [names_infer]
  exact Table.nodup_keys _

/-- Signatures that are inferred from the same tests are equal if they have the same name. -/
theorem eq_of_mem_infer_of_name {leaves : List Leaf} {signature other : Signature}
    (h : signature ∈ (infer leaves).signatures) (hother : other ∈ (infer leaves).signatures)
    (hname : other.name = signature.name) : other = signature :=
  List.inj_on_of_nodup_map (nodup_names_infer leaves) hother h hname

/-- The signature that a test is bound to is that of the profile of its function. -/
theorem profile_of_boundTo {leaves : List Leaf} {leaf : Leaf} {testCase : TestCase}
    (h : BoundTo (infer leaves).signatures leaf testCase) :
    ∃ profile, (Survey.ofLeaves leaves).profiles.get? leaf.property = some profile ∧
      testCase = leaf.toTestCase (profile.signature leaf.property) := by
  rcases h with ⟨signature, hlast, rfl⟩
  rcases mem_of_lastSignature?_eq_some hlast with ⟨hmem, hname⟩
  rcases (mem_signatures_infer_iff leaves signature).mp hmem with ⟨function, profile, hget, rfl⟩
  have hfunction : function = leaf.property := hname
  subst hfunction
  exact ⟨profile, hget, rfl⟩

/-- Every test can be bound to a signature that is inferred from it among others. -/
theorem exists_boundTo {leaves : List Leaf} {leaf : Leaf} (h : leaf ∈ leaves) :
    ∃ testCase, BoundTo (infer leaves).signatures leaf testCase := by
  rcases Survey.covers_ofLeaves leaves leaf h with ⟨profile, hprofile, -⟩
  have hmem : profile.signature leaf.property ∈ (infer leaves).signatures :=
    (mem_signatures_infer_iff leaves _).mpr ⟨leaf.property, profile, hprofile, rfl⟩
  cases hlast : lastSignature? (infer leaves).signatures leaf.property with
  | some signature => exact ⟨leaf.toTestCase signature, signature, hlast, rfl⟩
  | none =>
      exact ((lastSignature?_eq_none_iff _ _).mp hlast _ hmem rfl).elim

/-! ## Building -/

/-- The model and the warnings that a document comes to. -/
structure BuiltFrom (document : Document) (outcome : Outcome) : Prop where
  slug : outcome.model.slug = document.heading.exercise
  signatures : outcome.model.signatures = (infer document.leaves).signatures
  testCases : List.Forall₂ (BoundTo (infer document.leaves).signatures)
    (document.leaves.filter fun leaf => !leaf.expected.isError) outcome.model.testCases
  warnings : outcome.warnings =
    (infer document.leaves).conflicts.map .typeConflict ++ duplicateNames outcome.model.testCases

/-- A document that has been read comes to its model and its warnings, and to no others. -/
theorem Document.build_eq_ok_iff (document : Document) (outcome : Outcome) :
    document.build = .ok outcome ↔ BuiltFrom document outcome := by
  simp only [Document.build, buildFromLeaves, bind_eq_ok_iff, bindLeaves_eq_ok_iff]
  constructor
  · intro h
    rcases h with ⟨testCases, htestCases, h⟩
    cases h
    exact ⟨rfl, rfl, htestCases, rfl⟩
  · intro h
    rcases h with ⟨hslug, hsignatures, htestCases, hwarnings⟩
    refine ⟨outcome.model.testCases, htestCases, ?_⟩
    rw [← hslug, ← hsignatures, ← hwarnings]
    rfl

/-- A model is built exactly from a value that comes to a document that comes to the model. -/
theorem build_eq_ok_iff (raw : Json) (outcome : Outcome) :
    build raw = .ok outcome ↔
      ∃ document, DocumentOf raw document ∧ BuiltFrom document outcome := by
  simp only [← Document.ofJson_eq_ok_iff, ← Document.build_eq_ok_iff]
  unfold build
  cases hread : Document.ofJson raw with
  | error fault => simp
  | ok document => cases hbuild : document.build <;> simp [hbuild]

/-- The model of a value is built from the document that the value is read as. -/
theorem builtFrom_of_build {raw : Json} {document : Document} {outcome : Outcome}
    (hread : Document.ofJson raw = .ok document) (h : build raw = .ok outcome) :
    DocumentOf raw document ∧ BuiltFrom document outcome := by
  rcases (build_eq_ok_iff raw outcome).mp h with ⟨source, hsource, hbuilt⟩
  have hsame : source = document := by
    rw [← Document.ofJson_eq_ok_iff, hread, Except.ok.injEq] at hsource
    exact hsource.symm
  subst hsame
  exact ⟨hsource, hbuilt⟩

/-- A document that has been read always comes to a model. -/
theorem exists_builtFrom (document : Document) : ∃ outcome, BuiltFrom document outcome := by
  have hbound : ∀ leaf ∈ document.leaves.filter fun leaf => !leaf.expected.isError,
      ∃ testCase, BoundTo (infer document.leaves).signatures leaf testCase :=
    fun _ hmem => exists_boundTo (List.mem_of_mem_filter hmem)
  rcases ItemByItem.exists_forall₂ hbound with ⟨testCases, htestCases⟩
  let outcome : Outcome :=
    { model := ⟨document.heading.exercise, (infer document.leaves).signatures, testCases⟩
      warnings := (infer document.leaves).conflicts.map .typeConflict ++ duplicateNames testCases }
  exact ⟨outcome, rfl, rfl, htestCases, rfl⟩

/-- A model is built from all values that come to a document, and from no others. -/
theorem exists_build_iff (raw : Json) :
    (∃ outcome, build raw = .ok outcome) ↔ ∃ document, DocumentOf raw document := by
  simp only [build_eq_ok_iff]
  constructor
  · rintro ⟨_, document, hread, -⟩
    exact ⟨document, hread⟩
  · rintro ⟨document, hread⟩
    rcases exists_builtFrom document with ⟨outcome, hbuilt⟩
    exact ⟨outcome, document, hread, hbuilt⟩

/-! ## A small document -/

/-- A document with two functions: the calls of one disagree on an input, and the only call of the
other is expected to fail. -/
def sampleDocument : Json :=
  .object [
    ("exercise", .string "sums"),
    ("version", .string "1.0.0"),
    ("cases", .array [
      .object [
        ("description", .string "two summands"),
        ("property", .string "add"),
        ("input", .object [("a", .number (.ofInt 1)), ("b", .number (.ofInt 2))]),
        ("expected", .number (.ofInt 3))],
      .object [
        ("description", .string "refusals"),
        ("cases", .array [
          .object [
            ("description", .string "a text is no summand"),
            ("property", .string "add"),
            ("input", .object [("a", .string "one"), ("b", .number (.ofInt 2))]),
            ("expected", .object [("error", .string "not a number")])],
          .object [
            ("description", .string "nothing to divide by"),
            ("property", .string "divide"),
            ("input", .object [("a", .number (.ofInt 1))]),
            ("cases", .null),
            ("expected", .object [("error", .string "division by zero")])]])]])]

end Casebook
