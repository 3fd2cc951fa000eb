import Casebook.Model.Equality
import Casebook.Proofs.Model.Warnings
import Casebook.Proofs.Signature.Congruence

/-!
# The order of keys does not change a model

Two documents that differ only in the order of keys come to a model both or neither.  The models are
equal, their signatures and test cases standing in the same order; the same names are borne several
times; and the same conflicts are found, although in another order.

Main definitions:

- {lit}`TestCase.Agrees`: two test cases are equal but for the order of parameters, of arguments and
  of map entries.
- {lit}`Outcome.Agrees`: two models are equal, and their warnings are, but for the order of the
  conflicts.

Main results:

- Theorems {lit}`Signature.Agrees.same` and {lit}`TestCase.Agrees.same`: what agrees is equal.
- Theorem {lit}`BuiltFrom.agrees`: tests that agree come to models that agree.
- Theorem {lit}`build_ignores_key_order`: reordered documents come to models that agree.
-/

namespace Casebook

/-! ## What agrees is equal -/

/-- Tables that hold equal values under the same names are equal. -/
theorem Table.Related.same {α : Type} {eq : α → α → Bool} {s t : Table α}
    (h : s.Related (fun a b => eq a b = true) t) : s.same eq t = true := by
  have hlength : s.entries.length = t.entries.length := by
    simpa [keys] using h.perm_keys.length_eq
  rw [Table.same, Bool.and_eq_true, beq_iff_eq, List.all_eq_true]
  refine ⟨hlength, ?_⟩
  rintro ⟨name, value⟩ hmem
  have hname := h name
  rw [(s.get?_eq_some_iff name value).mpr hmem] at hname
  rcases ItemByItem.exists_of_rel_some hname with ⟨other, hother, hequal⟩
  rw [hother]
  exact hequal

/-- Lists that are equal item by item are equal. -/
theorem isEqv_of_forall₂ {α : Type} {eq : α → α → Bool} {as bs : List α}
    (h : List.Forall₂ (fun a b => eq a b = true) as bs) : as.isEqv bs eq = true := by
  induction h with
  | nil => rfl
  | cons hhere _ ih => rw [List.isEqv, hhere, ih, Bool.and_self]

/-- Signatures that agree are equal. -/
theorem Signature.Agrees.same {signature twin : Signature} (h : signature.Agrees twin) :
    signature.same twin = true := by
  have hparameters : signature.parameters.same (fun a b => a == b) twin.parameters = true := by
    apply Table.Related.same
    intro name
    rw [h.parameter name]
    cases twin.parameters.get? name with
    | none => exact .none
    | some kind => exact .some (beq_self_eq_true kind)
  simp [Signature.same, h.name, h.returns, hparameters]

/-- Two test cases are equal but for the order of parameters, of arguments and of map entries. -/
structure TestCase.Agrees (testCase twin : TestCase) : Prop where
  name : testCase.name = twin.name
  signature : testCase.signature.Agrees twin.signature
  arguments : testCase.arguments.Related Value.Same twin.arguments
  expected : testCase.expected.Same twin.expected
  comments : testCase.comments = twin.comments
  optional : testCase.optional = twin.optional

/-- Test cases that agree are equal. -/
theorem TestCase.Agrees.same {testCase twin : TestCase} (h : testCase.Agrees twin) :
    testCase.same twin = true := by
  have harguments : testCase.arguments.same Value.same twin.arguments = true :=
    Table.Related.same h.arguments
  have hexpected : testCase.expected.same twin.expected = true := h.expected
  simp [TestCase.same, h.name, h.signature.same, harguments, hexpected, h.comments, h.optional]

/-! ## Models of tests that agree -/

/-- The name and the count that are warned of, if it is a warning about a name. -/
def Warning.duplicate? : Warning → Option (String × Nat)
  | .duplicateName name occurrences => some (name, occurrences)
  | .typeConflict _ => none

/-- Two models are equal, and so are their warnings about names; their warnings of conflicts are the
same but for their order, and are over the same functions in the same order. -/
structure Outcome.Agrees (outcome twin : Outcome) : Prop where
  model : outcome.model.same twin.model = true
  duplicates : outcome.warnings.filterMap Warning.duplicate? =
    twin.warnings.filterMap Warning.duplicate?
  conflicts : (outcome.warnings.filterMap Warning.conflict?).Perm
    (twin.warnings.filterMap Warning.conflict?)
  conflictedFunctions : outcome.conflictedFunctions = twin.conflictedFunctions

namespace BuiltFrom

variable {document other : Document} {outcome twin : Outcome}

/-- The warnings about names are those that the names of the test cases cause. -/
theorem duplicates_warnings (h : BuiltFrom document outcome) :
    outcome.warnings.filterMap Warning.duplicate? =
      (duplicateNames outcome.model.testCases).filterMap Warning.duplicate? := by
  have hconflicts : ((infer document.leaves).conflicts.map Warning.typeConflict).filterMap
      Warning.duplicate? = [] := by
    simp [List.filterMap_eq_nil_iff, Warning.duplicate?]
  rw [h.warnings, List.filterMap_append, hconflicts, List.nil_append]

/-- Tests that agree are bound to test cases that agree. -/
theorem agrees_of_boundTo {leaves others : List Leaf}
    (h : List.Forall₂ Leaf.Agrees leaves others) {leaf other : Leaf} (hleaf : leaf.Agrees other)
    {testCase twin : TestCase} (hbound : BoundTo (infer leaves).signatures leaf testCase)
    (htwin : BoundTo (infer others).signatures other twin) : testCase.Agrees twin := by
  rcases profile_of_boundTo hbound with ⟨profile, hprofile, rfl⟩
  rcases profile_of_boundTo htwin with ⟨held, hheld, rfl⟩
  have hprofiles := ItemByItem.lookup (Survey.agrees_ofLeaves h).profiles leaf.property
  change Option.Rel _ ((Survey.ofLeaves leaves).profiles.get? leaf.property)
    ((Survey.ofLeaves others).profiles.get? leaf.property) at hprofiles
  rw [hprofile, hleaf.property, hheld] at hprofiles
  rcases hprofiles with ⟨hagrees⟩
  exact
    { name := hleaf.description
      signature := hleaf.property ▸ hagrees.signature leaf.property
      arguments := hleaf.input
      expected := hleaf.expected
      comments := hleaf.comments
      optional := hleaf.optional }

/-- Tests that agree one by one come to test cases that agree one by one. -/
theorem agrees_testCases (h : BuiltFrom document outcome) (htwin : BuiltFrom other twin)
    (hleaves : List.Forall₂ Leaf.Agrees document.leaves other.leaves) :
    List.Forall₂ TestCase.Agrees outcome.model.testCases twin.model.testCases := by
  have hbound : List.Forall₂ Leaf.Agrees
      (document.leaves.filter fun leaf => !leaf.expected.isError)
      (other.leaves.filter fun leaf => !leaf.expected.isError) := by
    refine List.rel_filter ?_ hleaves
    intro leaf twinLeaf hleaf
    simp only [Value.isError_eq_of_same hleaf.expected]
  have hpath := ItemByItem.trans (ItemByItem.trans h.testCases.flip hbound) htwin.testCases
  refine hpath.imp ?_
  rintro testCase twinCase ⟨twinLeaf, ⟨leaf, hcase, hleaf⟩, htwinCase⟩
  exact agrees_of_boundTo hleaves hleaf hcase htwinCase

/-- Tests that agree come to models that agree. -/
theorem agrees (h : BuiltFrom document outcome) (htwin : BuiltFrom other twin)
    (hheading : document.heading = other.heading)
    (hleaves : List.Forall₂ Leaf.Agrees document.leaves other.leaves) :
    outcome.Agrees twin := by
  have hinferred := agrees_infer hleaves
  have hsignatures : List.Forall₂ Signature.Agrees outcome.model.signatures
      twin.model.signatures := by
    rw [h.signatures, htwin.signatures]
    exact hinferred.signatures
  have htestCases := h.agrees_testCases htwin hleaves
  have hslug : outcome.model.slug = twin.model.slug := by
    rw [h.slug, htwin.slug, hheading]
  constructor
  case model =>
    have hequal := isEqv_of_forall₂ (hsignatures.imp fun _ _ hsignature => hsignature.same)
    have hequalCases := isEqv_of_forall₂ (htestCases.imp fun _ _ htestCase => htestCase.same)
    simp [Model.same, hslug, hequal, hequalCases]
  case duplicates =>
    have hnames : outcome.model.testCases.map TestCase.name =
        twin.model.testCases.map TestCase.name := by
      rw [← List.forall₂_eq_eq_eq, List.forall₂_map_left_iff, List.forall₂_map_right_iff]
      exact htestCases.imp fun _ _ htestCase => htestCase.name
    rw [h.duplicates_warnings, htwin.duplicates_warnings, duplicateNames, duplicateNames, hnames]
  case conflicts =>
    rw [h.conflicts_warnings, htwin.conflicts_warnings]
    exact hinferred.conflicts
  case conflictedFunctions =>
    rw [Outcome.conflictedFunctions, Outcome.conflictedFunctions, h.conflicts_warnings,
      htwin.conflicts_warnings]
    exact hinferred.conflictedFunctions

end BuiltFrom

/-! ## Documents -/

/-- The order of the keys of a document has no influence on whether there is a model, nor on what
the model is.  No object may repeat a key, which none does in a value that a text denotes. -/
theorem build_ignores_key_order {raw other : Json} (hdistinct : raw.DistinctKeys)
    (h : raw.SameButKeyOrder other) :
    ((∃ outcome, build raw = .ok outcome) ↔ ∃ outcome, build other = .ok outcome) ∧
      ∀ outcome twin, build raw = .ok outcome → build other = .ok twin →
        outcome.Agrees twin := by
  have hreordered : Json.Reordered raw other := ⟨hdistinct, h⟩
  constructor
  · rw [exists_build_iff, exists_build_iff]
    constructor
    · rintro ⟨document, hread⟩
      rcases hreordered.exists_documentOf hread with ⟨twin, htwin, -⟩
      exact ⟨twin, htwin⟩
    · rintro ⟨twin, hread⟩
      rcases hreordered.symm.exists_documentOf hread with ⟨document, hdocument, -⟩
      exact ⟨document, hdocument⟩
  · intro outcome twin hbuild htwin
    rcases (build_eq_ok_iff raw outcome).mp hbuild with ⟨document, hread, hbuilt⟩
    rcases (build_eq_ok_iff other twin).mp htwin with ⟨source, hsource, hbuiltTwin⟩
    rcases hreordered.exists_documentOf hread with ⟨found, hfound, hheading, hleaves⟩
    -- What the second value comes to is what the first one is reordered to.
    have hsame : found = source := by
      rw [← Document.ofJson_eq_ok_iff] at hfound hsource
      rw [hfound, Except.ok.injEq] at hsource
      exact hsource
    subst hsame
    exact hbuilt.agrees hbuiltTwin hheading hleaves

/-- With its keys in the opposite order the small document comes to a model that lists parameters in
another order, but is equal. -/
theorem build_ignores_key_order_reversed :
    ∃ outcome twin, build sampleDocument = .ok outcome ∧
      build sampleDocument.reverseKeys = .ok twin ∧
      outcome.model.signatures ≠ twin.model.signatures ∧ outcome.Agrees twin := by
  have hbuild : ∃ outcome twin, build sampleDocument = .ok outcome ∧
      build sampleDocument.reverseKeys = .ok twin ∧
      outcome.model.signatures ≠ twin.model.signatures := ⟨_, _, rfl, rfl, by decide⟩
  rcases hbuild with ⟨outcome, twin, houtcome, htwin, hdiffer⟩
  have hagrees := build_ignores_key_order (by decide : sampleDocument.DistinctKeys)
    (Json.sameButKeyOrder_reverseKeys sampleDocument)
  exact ⟨outcome, twin, houtcome, htwin, hdiffer, hagrees.2 outcome twin houtcome htwin⟩

end Casebook
