import Casebook.Model.Build

/-!
# Batches of documents

Several documents are built one by one; the failure of one does not touch the others.

Main definitions:

- {lit}`Report`: what has become of each document, in their order.
- {lit}`Report.ofDocuments`: the report on building some documents.
-/

namespace Casebook

/-- What has become of a document. -/
structure DocumentReport where
  /-- A label for the document, such as the path of its file. -/
  source : String
  result : Except BuildFailure Outcome

namespace DocumentReport

/-- The outcome, if there is one. -/
def outcome? (report : DocumentReport) : Option Outcome :=
  report.result.toOption

/-- The failure, if there is one. -/
def failure? (report : DocumentReport) : Option BuildFailure :=
  match report.result with
  | .error failure => some failure
  | .ok _ => none

end DocumentReport

/-- What has become of each document of a batch, in their order. -/
structure Report where
  documents : List DocumentReport

namespace Report

/-- The report on building some documents, each given with a label. -/
def ofDocuments (documents : List (String × Json)) : Report :=
  ⟨documents.map fun document => ⟨document.1, build document.2⟩⟩

/-- The outcomes of the documents that have one. -/
def outcomes (report : Report) : List Outcome :=
  report.documents.filterMap DocumentReport.outcome?

/-- The number of documents that have a model. -/
def succeeded (report : Report) : Nat :=
  report.outcomes.length

/-- The number of documents that have none. -/
def failed (report : Report) : Nat :=
  report.documents.length - report.succeeded

/-- The number of warnings on all documents. -/
def warningCount (report : Report) : Nat :=
  (report.outcomes.flatMap Outcome.warnings).length

/-- The failures, each with the label of its document. -/
def failures (report : Report) : List (String × BuildFailure) :=
  report.documents.filterMap fun document =>
    document.failure?.map fun failure => (document.source, failure)

end Report

end Casebook
