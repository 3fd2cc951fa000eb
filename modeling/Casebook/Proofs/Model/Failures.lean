import Casebook.Proofs.Model.Conservation

/-!
# Announcements of failing calls stay where they belong

An object with a text under the key {lit}`error` announces a failing call only as the whole
expected value of a test.  As a whole input it is refused, and below the top of an input or of an
expected value it is a map like any other.  Therefore no announcement gets into an argument or into
the expected value of a test case, at any depth.

Main definitions:

- {lit}`Json.KeepsObjects`: every object inside a value is a map with all of its entries inside its
  typed value.
- {lit}`LeafConfines`: a test holds an announcement only as its whole expected value, and only if
  its object does.
- {lit}`CaseConfines`: a test case holds no announcement, and all objects of its object are maps.

Main results:

- Theorem {lit}`LeafOf.confines`: a test that is read confines announcements.
- Theorem {lit}`CaseOf.confines`: a test case of an object that expects no failure holds none.
- Theorem {lit}`failures_confined`: this is so for every test of every document that is read, and
  for every test case of every model.
-/

namespace Casebook

/-! ## Announcements -/

/-- Nothing below the top of a typed value announces a failing call. -/
def Value.ErrorFreeBelow : Value → Prop
  | .array items => ∀ item ∈ items, item.ErrorFree
  | .map entries => ∀ entry ∈ entries, entry.2.ErrorFree
  | _ => True

/-- A value without announcements has none below its top. -/
theorem Value.ErrorFree.errorFreeBelow {value : Value} (h : value.ErrorFree) :
    value.ErrorFreeBelow := by
  cases h with
  | array hitems => exact hitems
  | map hentries => exact hentries
  | _ => trivial

/-- Every object inside a value is a map inside its typed value, at the same location, with the
same keys in the same order and with the counterparts of all values under them. -/
def Json.KeepsObjects (raw : Json) (value : Value) : Prop :=
  ∀ (location : Location) (fields : Fields), raw.at? location = some (.object fields) →
    ∃ entries, value.at? location = some (.map entries) ∧
      List.Forall₂ (SameName Json.Counterpart) fields entries

/-- The counterpart of a value keeps its objects. -/
theorem Json.Counterpart.keepsObjects {raw : Json} {value : Value} (h : raw.Counterpart value) :
    raw.KeepsObjects value := by
  intro location fields hobject
  rcases h.at? hobject with ⟨typed, htyped, hcounterpart⟩
  rcases (counterpart_object_iff fields typed).mp hcounterpart with ⟨entries, hentries, rfl⟩
  exact ⟨entries, htyped, hentries⟩

/-! ## Tests -/

/-- A test holds the announcement of a failing call only as its whole expected value, and exactly
if its object does. -/
structure LeafConfines (fields : Fields) (leaf : Leaf) : Prop where
  input : ∀ entry ∈ leaf.input.entries, entry.2.ErrorFree
  expected : ∃ raw, fields.lookup "expected" = some raw ∧
    ∀ message, leaf.expected = .error message ↔ raw.Announces message
  below : leaf.expected.ErrorFreeBelow

/-- The expected value of a test is an announcement exactly if the value that it comes from
announces the same. -/
theorem eq_error_iff_announces {raw : Json} {value : Value} (h : raw.TypedAs .expected value)
    (message : String) : value = .error message ↔ raw.Announces message := by
  rw [Json.announces_iff]
  rcases (Json.typedAs_expected_iff raw value).mp h with ⟨text, hfailure, rfl⟩ | ⟨hnone, hvalue⟩
  · simp [hfailure]
  · have hplain : value ≠ .error message := by
      rintro rfl
      cases hvalue.errorFree
    simp [hnone, hplain]

/-- The expected value of a test holds no announcement below its top. -/
theorem errorFreeBelow_of_typedAs_expected {raw : Json} {value : Value}
    (h : raw.TypedAs .expected value) : value.ErrorFreeBelow := by
  rcases (Json.typedAs_expected_iff raw value).mp h with ⟨message, -, rfl⟩ | ⟨-, hvalue⟩
  · trivial
  · exact hvalue.errorFree.errorFreeBelow

/-- A test that is read confines announcements. -/
theorem LeafOf.confines {fields : Fields} {leaf : Leaf} (h : LeafOf fields leaf) :
    LeafConfines fields leaf := by
  rcases h.input with ⟨inputs, -, hinputs⟩
  rcases h.expected with ⟨raw, hraw, hexpected⟩
  exact
    { input := hinputs.errorFree
      expected := ⟨raw, hraw, eq_error_iff_announces hexpected⟩
      below := errorFreeBelow_of_typedAs_expected hexpected }

/-! ## Test cases -/

/-- A test case holds no announcement of a failing call, no value of it is of unknown kind, and
every object inside its inputs and its expected value has become a map. -/
structure CaseConfines (fields : Fields) (testCase : TestCase) : Prop where
  arguments : ∀ entry ∈ testCase.arguments.entries,
    entry.2.ErrorFree ∧ entry.2.kind ≠ .unknown
  expected : testCase.expected.ErrorFree ∧ testCase.expected.kind ≠ .unknown
  /-- The inputs correspond to the arguments one by one if no name is repeated, as in every object
  that is read from a text. -/
  argumentObjects : ∃ inputs, fields.lookup "input" = some (.object inputs) ∧
    ((inputs.map Prod.fst).Nodup →
      List.Forall₂ (SameName Json.KeepsObjects) inputs testCase.arguments.entries)
  expectedObjects : ∃ raw, fields.lookup "expected" = some raw ∧
    raw.KeepsObjects testCase.expected

/-- The kind of a value without announcements is known. -/
theorem Value.ErrorFree.kind_ne_unknown {value : Value} (h : value.ErrorFree) :
    value.kind ≠ .unknown :=
  Value.kind_ne_unknown h.isError_eq_false

/-- A test case of an object that expects no failure holds no announcement. -/
theorem CaseOf.confines {signatures : List Signature} {fields : Fields} {testCase : TestCase}
    (h : CaseOf signatures fields testCase) (hfails : ¬ ExpectsFailure fields) :
    CaseConfines fields testCase := by
  rcases h.arguments with ⟨inputs, hlookup, hinputs, htyped⟩
  rcases h.expected with ⟨raw, hraw, hexpected⟩
  have hplain : raw.Counterpart testCase.expected := by
    rcases (Json.typedAs_expected_iff raw _).mp hexpected with ⟨message, hmessage, -⟩ | ⟨-, h⟩
    · have hannounces : raw.AnnouncesFailure := raw.announcesFailure_iff.mpr (by simp [hmessage])
      exact (hfails ⟨raw, hraw, hannounces⟩).elim
    · exact h
  refine ⟨?_, ?_, ⟨inputs, hlookup, fun hdistinct => ?_⟩, ⟨raw, hraw, hplain.keepsObjects⟩⟩
  · intro entry hmem
    have hfree := hinputs.errorFree entry hmem
    exact ⟨hfree, hfree.kind_ne_unknown⟩
  · exact ⟨hplain.errorFree, hplain.errorFree.kind_ne_unknown⟩
  · refine (htyped hdistinct).imp ?_
    intro field entry hinput
    exact ⟨hinput.1, ((Json.typedAs_input_iff _ _).mp hinput.2).2.keepsObjects⟩

/-! ## Documents and models -/

/-- Announcements of failing calls stay at the top of expected values in every document that is
read, and none gets into the test cases of a model. -/
theorem failures_confined (raw : Json) :
    (∀ document, Document.ofJson raw = .ok document →
      List.Forall₂ LeafConfines raw.leafObjects document.leaves) ∧
    ∀ outcome, build raw = .ok outcome →
      List.Forall₂ CaseConfines (raw.leafObjects.filter fun fields => ¬ ExpectsFailure fields)
        outcome.model.testCases := by
  constructor
  · intro document hread
    rw [Document.ofJson_eq_ok_iff] at hread
    exact hread.leafOf_leaves.imp fun _ _ hleaf => hleaf.confines
  · intro outcome hbuild
    rcases (build_eq_ok_iff raw outcome).mp hbuild with ⟨document, hread, hbuilt⟩
    have hpath := ItemByItem.trans hread.leafOf_filter hbuilt.testCases
    have hplain : ∀ fields ∈ raw.leafObjects.filter fun fields => ¬ ExpectsFailure fields,
        ¬ ExpectsFailure fields := by
      intro fields hmem
      simpa using (List.mem_filter.mp hmem).2
    refine ((List.forall₂_and_left _ _).mpr ⟨hplain, hpath⟩).imp ?_
    rintro fields testCase ⟨hfails, leaf, hleaf, hbound⟩
    exact (hleaf.caseOf hbound).confines hfails

/-- A document in which objects with a text under the key {lit}`error` stand at the top of an
expected value and inside inputs and expected values. -/
def nestedFailuresDocument : Json :=
  .object [
    ("version", .string "1.0.0"),
    ("exercise", .string "errors"),
    ("cases", .array [
      .object [
        ("description", .string "a list of errors"),
        ("property", .string "first"),
        ("input", .object [("reports", .array [
          .object [("error", .string "late"), ("code", .number (.ofInt 4))]])]),
        ("expected", .object [("report", .object [("error", .string "late")])])],
      .object [
        ("description", .string "no errors"),
        ("property", .string "first"),
        ("input", .object [("reports", .array [])]),
        ("expected", .object [("code", .number (.ofInt 1)), ("error", .string "empty")])]])]

/-- The document with errors inside has two tests and a model with one test case, and announcements
are confined in both. -/
theorem failures_confined_sample :
    ∃ document outcome, Document.ofJson nestedFailuresDocument = .ok document ∧
      build nestedFailuresDocument = .ok outcome ∧
      document.leaves.length = 2 ∧ outcome.model.testCases.length = 1 ∧
      List.Forall₂ LeafConfines nestedFailuresDocument.leafObjects document.leaves ∧
      List.Forall₂ CaseConfines
        (nestedFailuresDocument.leafObjects.filter fun fields => ¬ ExpectsFailure fields)
        outcome.model.testCases := by
  have hread : ∃ document, Document.ofJson nestedFailuresDocument = .ok document ∧
      document.leaves.length = 2 := ⟨_, rfl, rfl⟩
  have hbuild : ∃ outcome, build nestedFailuresDocument = .ok outcome ∧
      outcome.model.testCases.length = 1 := ⟨_, rfl, rfl⟩
  rcases hread with ⟨document, hdocument, hleaves⟩
  rcases hbuild with ⟨outcome, houtcome, hcases⟩
  exact ⟨document, outcome, hdocument, houtcome, hleaves, hcases,
    (failures_confined nestedFailuresDocument).1 document hdocument,
    (failures_confined nestedFailuresDocument).2 outcome houtcome⟩

end Casebook
