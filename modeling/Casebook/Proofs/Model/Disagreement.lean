import Casebook.Proofs.Model.Warnings
import Casebook.Proofs.Signature.Disagreement

/-!
# The functions that a model warns of

The functions that a model names as conflicted are those of which two tests disagree.  They stand in
the order in which the first test of each disagrees with an earlier one, which need not be the order
of the first calls.

Main results:

- Theorem {lit}`BuiltFrom.conflictedFunctions_eq`: the functions that the warnings are about are
  those that are inferred to have conflicts.
- Theorem {lit}`build_namesDivided`: every model names the functions whose tests disagree, in that
  order.
-/

namespace Casebook

/-- The functions that the warnings of a model are about are those that are inferred to have
conflicts; warnings about names do not matter. -/
theorem BuiltFrom.conflictedFunctions_eq {document : Document} {outcome : Outcome}
    (h : BuiltFrom document outcome) :
    outcome.conflictedFunctions = (infer document.leaves).conflictedFunctions := by
  rw [Outcome.conflictedFunctions, h.conflicts_warnings]
  rfl

/-- Every model names exactly the functions of which two tests of the document disagree, each once,
in the order in which the first test of each disagrees with an earlier one, and so does the
inference from the tests alone. -/
theorem build_namesDivided {raw : Json} {document : Document} {outcome : Outcome}
    (hread : Document.ofJson raw = .ok document) (h : build raw = .ok outcome) :
    NamesDivided document.leaves outcome.conflictedFunctions ∧
      (infer document.leaves).conflictedFunctions = outcome.conflictedFunctions := by
  rcases builtFrom_of_build hread h with ⟨hdocument, hbuilt⟩
  rw [hbuilt.conflictedFunctions_eq]
  exact ⟨namesDivided_infer hdocument.definite_leaves, rfl⟩

/-- A document in which the function that is called last is the first whose tests disagree.  The
tests of the other one disagree only on an input that two of them lack. -/
def interleavedDocument : Json :=
  .object [
    ("exercise", .string "letters"),
    ("version", .string "1.0.0"),
    ("cases", .array [
      .object [
        ("description", .string "one letter"),
        ("property", .string "count"),
        ("input", .object [("text", .string "a")]),
        ("expected", .number (.ofInt 1))],
      .object [
        ("description", .string "first letter"),
        ("property", .string "first"),
        ("input", .object [("text", .string "b")]),
        ("expected", .string "b")],
      .object [
        ("description", .string "no letter"),
        ("property", .string "first"),
        ("input", .object [("text", .string "")]),
        ("expected", .null)],
      .object [
        ("description", .string "no letter"),
        ("property", .string "count"),
        ("input", .object [("text", .string ""), ("limit", .number (.ofInt 0))]),
        ("expected", .object [("error", .string "limit too small")])],
      .object [
        ("description", .string "two letters"),
        ("property", .string "count"),
        ("input", .object [("text", .string "ab")]),
        ("expected", .number (.ofInt 2))]])]

/-- The model of the document names its functions in the order in which their tests disagree. -/
theorem build_namesDivided_interleaved :
    ∃ document outcome, Document.ofJson interleavedDocument = .ok document ∧
      build interleavedDocument = .ok outcome ∧
      outcome.model.signatures.map Signature.name = ["count", "first"] ∧
      outcome.conflictedFunctions = ["first", "count"] ∧
      NamesDivided document.leaves outcome.conflictedFunctions := by
  have hread : ∃ document, Document.ofJson interleavedDocument = .ok document := ⟨_, rfl⟩
  have hbuild : ∃ outcome, build interleavedDocument = .ok outcome ∧
      outcome.model.signatures.map Signature.name = ["count", "first"] ∧
      outcome.conflictedFunctions = ["first", "count"] := ⟨_, rfl, rfl, rfl⟩
  rcases hread with ⟨document, hdocument⟩
  rcases hbuild with ⟨outcome, houtcome, hnames, hdivided⟩
  exact ⟨document, outcome, hdocument, houtcome, hnames, hdivided,
    (build_namesDivided hdocument houtcome).1⟩

end Casebook
