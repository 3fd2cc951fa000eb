import Casebook.Value.Classify

/-!
# Faults of documents

A fault makes a document useless as a whole.  It tells the document by the name of its exercise
and the culprit by its location.

Main definitions:

- {lit}`Requirement`: the shapes that are demanded of the parts of a document.
- {lit}`FaultCause`: what is wrong with the culprit.
- {lit}`Fault`: a fault with its place.
-/

namespace Casebook

/-- A shape that is demanded of a part of a document. -/
inductive Requirement where
  /-- The document itself has to be an object. -/
  | topLevelObject
  | object
  | array
  | string
  /-- A test or a group has to be an object. -/
  | itemObject
  /-- Comments have to be an array of texts. -/
  | stringList
  deriving DecidableEq, Repr, Inhabited

/-- What is demanded, in words. -/
def Requirement.phrase : Requirement → String
  | .topLevelObject => "an object at the top level"
  | .object => "an object"
  | .array => "an array"
  | .string => "a string"
  | .itemObject => "a test item object"
  | .stringList => "a list of strings"

/-- What is wrong with the culprit of a fault. -/
inductive FaultCause where
  /-- An object lacks a key. -/
  | missing (key : String)
  /-- A value has another shape than the one demanded. -/
  | mismatch (wanted : Requirement) (found : Json.Shape)
  /-- A number is beyond the range of its kind. -/
  | outOfRange (literal : Numeral)
  /-- An input announces a failing call. -/
  | reserved (message : String)
  deriving DecidableEq, Repr, Inhabited

/-- A fault of a document. -/
structure Fault where
  /-- The exercise of the document, as far as it is known. -/
  document : String
  location : Location
  cause : FaultCause
  deriving DecidableEq, Repr, Inhabited

namespace Fault

/-- The name of a document whose exercise is not known. -/
def unnamed : String := "<unnamed>"

/-- The fault of a document that contains a value without a typed counterpart. -/
def ofValueFault (document : String) : ValueFault → Fault
  | .outOfRange location literal => ⟨document, location, .outOfRange literal⟩
  | .reserved location message => ⟨document, location, .reserved message⟩

/-- The message that describes a fault. -/
def message (fault : Fault) : String :=
  let place := "`" ++ fault.document ++ "` at " ++ fault.location.text ++ ": "
  match fault.cause with
  | .missing key =>
      "malformed document " ++ place ++ "missing required key `" ++ key ++ "`"
  | .mismatch wanted found =>
      "malformed document " ++ place ++ "expected " ++ wanted.phrase ++ ", found " ++ found.name
  | .outOfRange literal =>
      "unclassifiable value in " ++ place ++ ValueFault.describeNumeral literal
  | .reserved message =>
      "malformed input in " ++ place
        ++ "`error` sentinel is reserved for expected values (message: "
        ++ Text.quoted message ++ ")"

end Fault

end Casebook
