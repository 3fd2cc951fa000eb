import Casebook.Document.Reading
import Casebook.Model.Binding
import Casebook.Signature.Inference

/-!
# Building models

A model is built from a document by reading it, inferring the signatures from all its tests, and
binding the tests to the signatures.

Main definitions:

- {lit}`Document.build`: the model of a document that has been read.
- {lit}`build`: the model of a document that has yet to be read.
-/

namespace Casebook

/-- Why there is no model. -/
inductive BuildFailure where
  /-- The document is at fault. -/
  | fault (fault : Fault)
  /-- A test could not be bound to a signature. -/
  | unbound (missing : MissingSignature)
  deriving DecidableEq, Repr, Inhabited

namespace BuildFailure

/-- The message that describes the failure. -/
def message : BuildFailure → String
  | .fault cause => cause.message
  | .unbound cause => cause.message

end BuildFailure

/-- The model of an exercise with some tests: the warnings tell the conflicts first. -/
def buildFromLeaves (slug : String) (leaves : List Leaf) : Except MissingSignature Outcome := do
  let inferred := infer leaves
  let testCases ← bindLeaves inferred.signatures leaves
  return {
    model := { slug, signatures := inferred.signatures, testCases }
    warnings := inferred.conflicts.map .typeConflict ++ duplicateNames testCases }

/-- The model of a document. -/
def Document.build (document : Document) : Except MissingSignature Outcome :=
  buildFromLeaves document.heading.exercise document.leaves

/-- The model of a document that has yet to be read. -/
def build (raw : Json) : Except BuildFailure Outcome :=
  match Document.ofJson raw with
  | .error fault => .error (.fault fault)
  | .ok document =>
      match document.build with
      | .error missing => .error (.unbound missing)
      | .ok outcome => .ok outcome

end Casebook
