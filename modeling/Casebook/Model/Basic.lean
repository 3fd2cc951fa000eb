import Casebook.Naming
import Casebook.Signature.Basic
import Casebook.Text.Quoted

/-!
# Models

A model is what a document comes to: the signatures of the functions under test and the typed test
cases, each bound to its signature.

Main definitions:

- {lit}`TestCase`: a test with its signature.
- {lit}`Model`: a whole model.
- {lit}`Warning`: what is noteworthy about a model.
- {lit}`Outcome`: a model with its warnings.
-/

namespace Casebook

/-- A test bound to the signature of the function that it calls. -/
structure TestCase where
  /-- The description of the test as it is. -/
  name : String
  signature : Signature
  arguments : Table Value
  expected : Value
  comments : Option (List String)
  optional : Option String
  deriving Repr, Inhabited

namespace TestCase

/-- The name of the test in generated code. -/
def identifier (testCase : TestCase) : String :=
  Naming.identifier testCase.name

end TestCase

/-- What a document comes to. -/
structure Model where
  slug : String
  signatures : List Signature
  testCases : List TestCase
  deriving Repr, Inhabited

namespace Model

/-- The first signature with a name. -/
def signature? (model : Model) (name : String) : Option Signature :=
  model.signatures.find? fun signature => signature.name == name

/-- The name of the class under test in generated code. -/
def className (model : Model) : String :=
  Naming.className model.slug

/-- The name of the class of the tests in generated code. -/
def testClassName (model : Model) : String :=
  Naming.testClassName model.slug

end Model

/-- What is noteworthy about a model. -/
inductive Warning where
  /-- Calls of a function disagree. -/
  | typeConflict (conflict : Conflict)
  /-- Several test cases bear one name; all of them are kept. -/
  | duplicateName (name : String) (occurrences : Nat)
  deriving DecidableEq, Repr, Inhabited

namespace Warning

/-- The written form. -/
def text : Warning → String
  | .typeConflict conflict => "type conflict in " ++ conflict.text
  | .duplicateName name occurrences =>
      "test name " ++ Text.quoted name ++ " used by " ++ Digit.textOfNat occurrences ++ " cases"

/-- The conflict that is warned of, if it is one. -/
def conflict? : Warning → Option Conflict
  | .typeConflict conflict => some conflict
  | .duplicateName _ _ => none

end Warning

/-- A model with its warnings. -/
structure Outcome where
  model : Model
  warnings : List Warning
  deriving Repr, Inhabited

namespace Outcome

/-- The functions whose calls disagree. -/
def conflictedFunctions (outcome : Outcome) : List String :=
  Conflict.functions (outcome.warnings.filterMap Warning.conflict?)

end Outcome

end Casebook
