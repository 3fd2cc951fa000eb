import Casebook.Document.Basic
import Casebook.Document.Fault

/-!
# Reading documents

A document is read from JSON from the outside to the inside and from left to right; the first
fault ends the reading.  Keys that mean nothing are passed over.

Main definitions:

- {lit}`Reader`: a part of a document with its place, and the demands that are made on parts.
- {lit}`Item.ofJson`: a test or a group; a value under the key {lit}`cases` other than null makes
  a group.
- {lit}`Outline.ofJson`: what a document says about itself, its items being left as they are.
- {lit}`Document.ofJson`: a whole document.
-/

namespace Casebook

/-- The fields of an object in the order of their keys. -/
abbrev Fields := List (String × Json)

/-- The place of the part that is being read: its document and its location. -/
structure Reader where
  document : String
  here : Location

namespace Reader

/-- The reader one step further inside, at a key. -/
def atKey (reader : Reader) (name : String) : Reader :=
  { reader with here := reader.here.key name }

/-- The reader one step further inside, at an index. -/
def atIndex (reader : Reader) (i : Nat) : Reader :=
  { reader with here := reader.here.index i }

/-- The reading ends with a fault at the present location. -/
def fail {α : Type} (reader : Reader) (cause : FaultCause) : Except Fault α :=
  .error ⟨reader.document, reader.here, cause⟩

/-- The reading ends because of a value of the wrong shape. -/
def mismatch {α : Type} (reader : Reader) (wanted : Requirement) (found : Json) :
    Except Fault α :=
  reader.fail (.mismatch wanted found.shape)

/-- A typed value. -/
def value (reader : Reader) (role : Role) (raw : Json) : Except Fault Value :=
  match raw.classify role reader.here with
  | .ok value => .ok value
  | .error fault => .error (Fault.ofValueFault reader.document fault)

/-- A text. -/
def string (reader : Reader) : Json → Except Fault String
  | .string s => .ok s
  | other => reader.mismatch .string other

/-- The text under a key that has to be there. -/
def requiredString (reader : Reader) (fields : Fields) (key : String) : Except Fault String :=
  match fields.lookup key with
  | none => reader.fail (.missing key)
  | some raw => (reader.atKey key).string raw

/-- The text under a key that may be missing or null. -/
def optionalString (reader : Reader) (fields : Fields) (key : String) :
    Except Fault (Option String) :=
  match fields.lookup key with
  | none => .ok none
  | some .null => .ok none
  | some raw => ((reader.atKey key).string raw).map some

/-- The items of the array under a key that has to be there. -/
def requiredArray (reader : Reader) (fields : Fields) (key : String) :
    Except Fault (List Json) :=
  match fields.lookup key with
  | none => reader.fail (.missing key)
  | some (.array items) => .ok items
  | some other => (reader.atKey key).mismatch .array other

/-- The texts of an array, from an index on. -/
def strings (reader : Reader) (i : Nat) : List Json → Except Fault (List String)
  | [] => .ok []
  | raw :: rest => do
      let s ← (reader.atIndex i).string raw
      let others ← strings reader (i + 1) rest
      return s :: others

/-- The comments, which may be missing or null. -/
def comments (reader : Reader) (fields : Fields) : Except Fault (Option (List String)) :=
  match fields.lookup "comments" with
  | none => .ok none
  | some .null => .ok none
  | some (.array items) => ((reader.atKey "comments").strings 0 items).map some
  | some other => (reader.atKey "comments").mismatch .stringList other

/-! ## Tests -/

/-- The inputs of a test: every field becomes a typed value under its key. -/
def inputs (reader : Reader) : Fields → Table Value → Except Fault (Table Value)
  | [], inputs => .ok inputs
  | (name, raw) :: rest, inputs => do
      let value ← (reader.atKey name).value .input raw
      reader.inputs rest (inputs.put name value)

/-- The inputs under the key of a test. -/
def requiredInputs (reader : Reader) (fields : Fields) : Except Fault (Table Value) :=
  match fields.lookup "input" with
  | none => reader.fail (.missing "input")
  | some (.object entries) => (reader.atKey "input").inputs entries .empty
  | some other => (reader.atKey "input").mismatch .object other

/-- The expected value of a test. -/
def requiredExpected (reader : Reader) (fields : Fields) : Except Fault Value :=
  match fields.lookup "expected" with
  | none => reader.fail (.missing "expected")
  | some raw => (reader.atKey "expected").value .expected raw

/-- A test. -/
def leaf (reader : Reader) (fields : Fields) : Except Fault Leaf := do
  let description ← reader.requiredString fields "description"
  let property ← reader.requiredString fields "property"
  let input ← reader.requiredInputs fields
  let expected ← reader.requiredExpected fields
  let comments ← reader.comments fields
  let optional ← reader.optionalString fields "optional"
  return { description, property, input, expected, comments, optional }

/-- What a group says about itself, its description being known. -/
def groupHeading (reader : Reader) (fields : Fields) (description : String) :
    Except Fault GroupHeading := do
  let comments ← reader.comments fields
  let optional ← reader.optionalString fields "optional"
  return { description, comments, optional }

end Reader

/-! ## Items -/

/-- What stands under the key {lit}`cases` of an item. -/
inductive CasesField where
  /-- Nothing, or null: the item is a test. -/
  | absent
  /-- Neither null nor an array. -/
  | malformed (found : Json)
  /-- The items of a group, or the first fault among them. -/
  | items (read : Except Fault (List Item))

namespace Item

mutual

/-- A test or a group. -/
def ofJson (reader : Reader) : Json → Except Fault Item
  | .object fields =>
      match casesField reader fields with
      | .absent => (reader.leaf fields).map .test
      | .malformed found => (reader.atKey "cases").mismatch .array found
      | .items read => do
          let description ← reader.requiredString fields "description"
          let items ← read
          let heading ← reader.groupHeading fields description
          return .group heading items
  | other => reader.mismatch .itemObject other

/-- The items of an array, from an index on. -/
def listOfJson (reader : Reader) (i : Nat) : List Json → Except Fault (List Item)
  | [] => .ok []
  | raw :: rest => do
      let item ← ofJson (reader.atIndex i) raw
      let items ← listOfJson reader (i + 1) rest
      return item :: items

/-- What stands under the key {lit}`cases` of an item with some fields. -/
def casesField (reader : Reader) : Fields → CasesField
  | [] => .absent
  | (key, value) :: fields =>
      if key = "cases" then
        match value with
        | .null => .absent
        | .array items => .items (listOfJson (reader.atKey "cases") 0 items)
        | other => .malformed other
      else casesField reader fields

end

end Item

/-! ## Documents -/

/-- A document whose items are yet to be read. -/
structure Outline where
  heading : DocumentHeading
  items : List Json

namespace Outline

/-- The name of the exercise, as far as the fields of a document tell it. -/
def documentName (fields : Fields) : String :=
  match fields.lookup "exercise" with
  | some (.string name) => name
  | _ => Fault.unnamed

/-- The reader of a document with some fields. -/
def reader (fields : Fields) : Reader :=
  ⟨documentName fields, Location.root⟩

/-- What a document says about itself, and its items. -/
def ofJson : Json → Except Fault Outline
  | .object fields => do
      let version ← (reader fields).requiredString fields "version"
      let exercise ← (reader fields).requiredString fields "exercise"
      let items ← (reader fields).requiredArray fields "cases"
      let comments ← (reader fields).comments fields
      return ⟨{ version, exercise, comments }, items⟩
  | other => Reader.mismatch ⟨Fault.unnamed, Location.root⟩ .topLevelObject other

/-- The document with its items read. -/
def complete (outline : Outline) : Except Fault Document := do
  let reader : Reader := ⟨outline.heading.exercise, Location.root⟩
  let items ← Item.listOfJson (reader.atKey "cases") 0 outline.items
  return ⟨outline.heading, items⟩

end Outline

namespace Document

/-- A document. -/
def ofJson (raw : Json) : Except Fault Document := do
  let outline ← Outline.ofJson raw
  outline.complete

end Document

end Casebook
