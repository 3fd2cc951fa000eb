import Casebook.Number.Numeral

/-!
# JSON values

A JSON value keeps what its source shows: numbers keep their spelling and objects keep the order
of their keys.

Main definitions:

- {lit}`Json`: JSON values.
- {lit}`Json.Shape`: which of the six shapes a value has.
- {lit}`Json.DistinctKeys`: no object of a value repeats a key.
-/

namespace Casebook

/-- A JSON value. -/
inductive Json where
  | null
  | bool (b : Bool)
  | number (n : Numeral)
  | string (s : String)
  | array (items : List Json)
  | object (fields : List (String × Json))
  deriving Repr, Inhabited

namespace Json

/-- The shape of a value, whatever it contains. -/
inductive Shape where
  | null
  | boolean
  | number
  | string
  | array
  | object
  deriving DecidableEq, Repr, Inhabited

/-- The word for a shape. -/
def Shape.name : Shape → String
  | .null => "null"
  | .boolean => "boolean"
  | .number => "number"
  | .string => "string"
  | .array => "array"
  | .object => "object"

/-- The shape of a value. -/
def shape : Json → Shape
  | .null => .null
  | .bool _ => .boolean
  | .number _ => .number
  | .string _ => .string
  | .array _ => .array
  | .object _ => .object

mutual

/-- No object at or below a value repeats a key. -/
def DistinctKeys : Json → Prop
  | .array items => DistinctKeysItems items
  | .object fields => (fields.map Prod.fst).Nodup ∧ DistinctKeysFields fields
  | _ => True

/-- No object at or below the items of an array repeats a key. -/
def DistinctKeysItems : List Json → Prop
  | [] => True
  | item :: items => DistinctKeys item ∧ DistinctKeysItems items

/-- No object at or below the values of an object repeats a key. -/
def DistinctKeysFields : List (String × Json) → Prop
  | [] => True
  | (_, value) :: fields => DistinctKeys value ∧ DistinctKeysFields fields

end

end Json

end Casebook
