import Casebook.Proofs.Model.Building

/-!
# A model depends on its exercise and its tests only

Reading a document keeps nothing of the groups around a test, and what is kept of a test is what
stands under six keys of its object.  Two documents of the same exercise whose tests are the same
from left to right therefore come to the same model and to the same warnings, however differently
the tests are gathered in groups and whatever else the documents say.

Main definitions:

- {lit}`SameTest`: two objects say the same about the test that they describe.

Main results:

- Theorem {lit}`LeafOf.eq_of_sameTest`: objects that say the same describe the same test.
- Theorem {lit}`DocumentOf.leaves_eq`: documents whose objects say the same have the same tests.
- Theorem {lit}`BuiltFrom.eq_of_leaves`: the same exercise with the same tests comes to one model.
- Theorem {lit}`build_depends_on_tests`: documents of one exercise whose objects say the same come
  to one model with one list of warnings.
-/

namespace Casebook

/-- Two objects say the same about the test that they describe; what stands under other keys does
not matter. -/
structure SameTest (fields other : Fields) : Prop where
  description : fields.lookup "description" = other.lookup "description"
  property : fields.lookup "property" = other.lookup "property"
  input : fields.lookup "input" = other.lookup "input"
  expected : fields.lookup "expected" = other.lookup "expected"
  comments : fields.lookup "comments" = other.lookup "comments"
  optional : fields.lookup "optional" = other.lookup "optional"

/-! ## Tests -/

/-- An object that says the same describes the same test. -/
theorem LeafOf.of_sameTest {fields other : Fields} {leaf : Leaf} (h : LeafOf fields leaf)
    (hsame : SameTest fields other) : LeafOf other leaf where
  description := hsame.description ▸ h.description
  property := hsame.property ▸ h.property
  input := hsame.input ▸ h.input
  expected := hsame.expected ▸ h.expected
  comments := hsame.comments ▸ h.comments
  optional := hsame.optional ▸ h.optional

/-- An object describes one test at most. -/
theorem LeafOf.unique {fields : Fields} {leaf twin : Leaf} (h : LeafOf fields leaf)
    (htwin : LeafOf fields twin) : leaf = twin := by
  -- Both are what a reader at any place reads from the object.
  let reader : Reader := ⟨Fault.unnamed, Location.root⟩
  have hread : reader.leaf fields = .ok leaf := (reader.leaf_eq_ok_iff fields leaf).mpr h
  have hreadTwin : reader.leaf fields = .ok twin := (reader.leaf_eq_ok_iff fields twin).mpr htwin
  rw [hread, Except.ok.injEq] at hreadTwin
  exact hreadTwin

/-- Objects that say the same describe the same test. -/
theorem LeafOf.eq_of_sameTest {fields other : Fields} {leaf twin : Leaf} (h : LeafOf fields leaf)
    (htwin : LeafOf other twin) (hsame : SameTest fields other) : leaf = twin :=
  (h.of_sameTest hsame).unique htwin

/-! ## Documents -/

/-- Documents whose objects say the same, one by one, have the same tests. -/
theorem DocumentOf.leaves_eq {raw other : Json} {document twin : Document}
    (h : DocumentOf raw document) (htwin : DocumentOf other twin)
    (htests : List.Forall₂ SameTest raw.leafObjects other.leafObjects) :
    document.leaves = twin.leaves := by
  have hpath := ItemByItem.trans (ItemByItem.trans h.leafOf_leaves.flip htests) htwin.leafOf_leaves
  have heq : List.Forall₂ (fun leaf twin => leaf = twin) document.leaves twin.leaves := by
    refine hpath.imp ?_
    rintro leaf twinLeaf ⟨other, ⟨fields, hleaf, hsame⟩, htwinLeaf⟩
    exact LeafOf.eq_of_sameTest hleaf htwinLeaf hsame
  rwa [List.forall₂_eq_eq_eq] at heq

/-- Documents with the same text under the key of the exercise have the same exercise. -/
theorem DocumentOf.exercise_eq {raw other : Json} {document twin : Document}
    (h : DocumentOf raw document) (htwin : DocumentOf other twin)
    (hexercise : raw.at? [.key "exercise"] = other.at? [.key "exercise"]) :
    document.heading.exercise = twin.heading.exercise := by
  cases h with
  | intro _ hname _ _ _ =>
      cases htwin with
      | intro _ htwinName _ _ _ =>
          simpa [Json.into?, hname, htwinName] using hexercise

/-- The same exercise with the same tests comes to one model with one list of warnings. -/
theorem BuiltFrom.eq_of_leaves {document other : Document} {outcome twin : Outcome}
    (h : BuiltFrom document outcome) (htwin : BuiltFrom other twin)
    (hexercise : document.heading.exercise = other.heading.exercise)
    (hleaves : document.leaves = other.leaves) : outcome = twin := by
  rw [← Document.build_eq_ok_iff, Document.build] at h htwin
  rw [hexercise, hleaves, htwin, Except.ok.injEq] at h
  exact h.symm

/-- Two documents of one exercise whose objects say the same about their tests, from left to right,
come to one model with one list of warnings.  The version, the comments of the document, the groups
with their descriptions, comments and marks, groups without tests and keys without a meaning have no
influence. -/
theorem build_depends_on_tests {raw other : Json} {outcome twin : Outcome}
    (hbuild : build raw = .ok outcome) (htwin : build other = .ok twin)
    (hexercise : raw.at? [.key "exercise"] = other.at? [.key "exercise"])
    (htests : List.Forall₂ SameTest raw.leafObjects other.leafObjects) : outcome = twin := by
  rcases (build_eq_ok_iff raw outcome).mp hbuild with ⟨document, hread, hbuilt⟩
  rcases (build_eq_ok_iff other twin).mp htwin with ⟨source, hsource, hbuiltTwin⟩
  have hslug : document.heading.exercise = source.heading.exercise :=
    hread.exercise_eq hsource hexercise
  have hleaves : document.leaves = source.leaves := hread.leaves_eq hsource htests
  exact hbuilt.eq_of_leaves hbuiltTwin hslug hleaves

/-- The tests of the small document in other groups, one of them without tests, with another
version, with comments and marks on the groups, and with keys that mean nothing. -/
def regroupedSampleDocument : Json :=
  .object [
    ("cases", .array [
      .object [("description", .string "nothing here"), ("cases", .array [])],
      .object [
        ("optional", .string "later"),
        ("comments", .array [.string "both functions"]),
        ("cases", .array [
          .object [
            ("description", .string "sums"),
            ("cases", .array [
              .object [
                ("uuid", .string "1"),
                ("property", .string "add"),
                ("description", .string "two summands"),
                ("cases", .null),
                ("input", .object [("a", .number (.ofInt 1)), ("b", .number (.ofInt 2))]),
                ("expected", .number (.ofInt 3))],
              .object [
                ("description", .string "a text is no summand"),
                ("property", .string "add"),
                ("input", .object [("a", .string "one"), ("b", .number (.ofInt 2))]),
                ("expected", .object [("error", .string "not a number")])]])],
          .object [
            ("description", .string "nothing to divide by"),
            ("property", .string "divide"),
            ("input", .object [("a", .number (.ofInt 1))]),
            ("expected", .object [("error", .string "division by zero")])]]),
        ("description", .string "calls")]]),
    ("comments", .array [.string "regrouped"]),
    ("version", .string "2.0.0"),
    ("exercise", .string "sums")]

/-- The regrouped document comes to the model of the small document, with its warning. -/
theorem build_depends_on_tests_regrouped :
    ∃ outcome twin, build sampleDocument = .ok outcome ∧
      build regroupedSampleDocument = .ok twin ∧ twin.warnings.length = 1 ∧ outcome = twin := by
  have hbuild : ∃ outcome twin, build sampleDocument = .ok outcome ∧
      build regroupedSampleDocument = .ok twin ∧ twin.warnings.length = 1 := ⟨_, _, rfl, rfl, rfl⟩
  rcases hbuild with ⟨outcome, twin, houtcome, htwin, hwarnings⟩
  have htests : List.Forall₂ SameTest sampleDocument.leafObjects
      regroupedSampleDocument.leafObjects := by
    refine .cons ?_ (.cons ?_ (.cons ?_ .nil)) <;> exact ⟨rfl, rfl, rfl, rfl, rfl, rfl⟩
  exact ⟨outcome, twin, houtcome, htwin, hwarnings,
    build_depends_on_tests houtcome htwin rfl htests⟩

end Casebook
