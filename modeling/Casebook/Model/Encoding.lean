import Casebook.Json.Writing
import Casebook.Model.Basic
import Casebook.Number.Shortest

/-!
# Models as JSON

A model is written as JSON for the programs that generate code from it.  Every typed value tells
its kind next to its contents.

Main definitions:

- {lit}`Value.toJson`, {lit}`Signature.toJson`, {lit}`TestCase.toJson`, {lit}`Model.toJson`,
  {lit}`Conflict.toJson`, {lit}`Warning.toJson`: the JSON forms.
- {lit}`Model.text`: the text of a model.
-/

namespace Casebook

namespace Json

/-- A text or null. -/
def ofOption {α : Type} (encode : α → Json) : Option α → Json
  | none => .null
  | some a => encode a

/-- An array of texts. -/
def ofStrings (strings : List String) : Json :=
  .array (strings.map .string)

/-- A natural number. -/
def ofNat (n : Nat) : Json :=
  .number (.ofInt n)

end Json

namespace Kind

/-- A kind is its word. -/
def toJson (kind : Kind) : Json :=
  .string kind.name

end Kind

namespace Value

/-- Contents next to their kind. -/
def tagged (kind : String) (contents : Json) : Json :=
  .object [("kind", .string kind), ("value", contents)]

mutual

/-- A value is an object that tells the kind and, but for null, the contents. -/
def toJson : Value → Json
  | .null => .object [("kind", .string "Null")]
  | .bool b => tagged "Bool" (.bool b)
  | .int z => tagged "Int" (.number (.ofInt z))
  | .double d => tagged "Double" (.number d.numeral)
  | .string s => tagged "String" (.string s)
  | .array items => tagged "Array" (.array (itemsToJson items))
  | .map entries => tagged "Map" (.object (entriesToJson entries))
  | .error message => tagged "Error" (.string message)

/-- The JSON forms of some values. -/
def itemsToJson : List Value → List Json
  | [] => []
  | item :: items => toJson item :: itemsToJson items

/-- The JSON forms of the values of some entries. -/
def entriesToJson : List (String × Value) → List (String × Json)
  | [] => []
  | (key, value) :: entries => (key, toJson value) :: entriesToJson entries

end

end Value

namespace Signature

/-- A signature as JSON. -/
def toJson (signature : Signature) : Json :=
  .object [
    ("name", .string signature.name),
    ("parameters", .object (signature.parameters.mapValues fun _ kind => kind.toJson).entries),
    ("return_kind", signature.returns.toJson)]

end Signature

namespace TestCase

/-- A test case as JSON; its signature is written out in full. -/
def toJson (testCase : TestCase) : Json :=
  .object [
    ("name", .string testCase.name),
    ("signature", testCase.signature.toJson),
    ("arguments", .object (testCase.arguments.mapValues fun _ value => value.toJson).entries),
    ("expected", testCase.expected.toJson),
    ("comments", .ofOption .ofStrings testCase.comments),
    ("optional", .ofOption .string testCase.optional)]

end TestCase

namespace Model

/-- A model as JSON. -/
def toJson (model : Model) : Json :=
  .object [
    ("slug", .string model.slug),
    ("signatures", .array (model.signatures.map Signature.toJson)),
    ("test_cases", .array (model.testCases.map TestCase.toJson))]

/-- The text of a model, without a line break at its end. -/
def text (model : Model) : String :=
  model.toJson.pretty

end Model

namespace Slot

/-- A slot as JSON. -/
def toJson : Slot → Json
  | .parameter name => .object [("Parameter", .string name)]
  | .result => .string "Return"

end Slot

namespace Conflict

/-- A conflict as JSON. -/
def toJson (conflict : Conflict) : Json :=
  .object [
    ("function", .string conflict.function),
    ("slot", conflict.slot.toJson),
    ("previous", .ofOption Kind.toJson conflict.previous),
    ("observed", .ofOption Kind.toJson conflict.observed)]

end Conflict

namespace Warning

/-- A warning as JSON. -/
def toJson : Warning → Json
  | .typeConflict conflict => .object [("TypeConflict", conflict.toJson)]
  | .duplicateName name occurrences =>
      .object [("DuplicateTestName",
        .object [("name", .string name), ("occurrences", .ofNat occurrences)])]

end Warning

end Casebook
