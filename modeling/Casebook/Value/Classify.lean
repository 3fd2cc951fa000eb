import Casebook.Location
import Casebook.Value.Basic

/-!
# From JSON to typed values

A JSON value becomes a typed value of the same structure.  Only numbers can fail to have a typed
counterpart.  An object with a text under the key {lit}`error` announces a failing call where it
stands for the whole expected value; as a whole input it is refused, and anywhere below it is an
ordinary map.

Main definitions:

- {lit}`Role`: whether a value is passed to the function or expected from it.
- {lit}`ValueFault`: why a value has no typed counterpart.
- {lit}`Json.classify`: the typed value.
-/

namespace Casebook

/-- What a value is for. -/
inductive Role where
  | input
  | expected
  deriving DecidableEq, Repr, Inhabited

/-- Why a value has no typed counterpart, and where the culprit stands. -/
inductive ValueFault where
  /-- A number beyond the range of its kind. -/
  | outOfRange (location : Location) (literal : Numeral)
  /-- An input that announces a failing call. -/
  | reserved (location : Location) (message : String)
  deriving DecidableEq, Repr, Inhabited

namespace ValueFault

/-- Where the culprit stands. -/
def location : ValueFault → Location
  | .outOfRange location _ => location
  | .reserved location _ => location

/-- What is wrong with a number beyond the range of its kind. -/
def describeNumeral (literal : Numeral) : String :=
  if literal.isInteger then
    "integer literal " ++ literal.text ++ " outside the 64-bit signed range"
  else
    "non-finite number " ++ literal.text

/-- The message that describes a fault. -/
def message : ValueFault → String
  | .outOfRange location literal =>
      "unclassifiable value at " ++ location.text ++ ": " ++ describeNumeral literal
  | .reserved location message =>
      "input at " ++ location.text ++ " uses the reserved `error` sentinel (message: "
        ++ Text.quoted message ++ ")"

end ValueFault

namespace Numeral

/-- The least 64-bit signed integer: -2⁶³. -/
def minInt : Int := -9223372036854775808

/-- The greatest 64-bit signed integer: 2⁶³ - 1. -/
def maxInt : Int := 9223372036854775807

/-- The typed value of a number: an integer exactly if it is written as one. -/
def value? (n : Numeral) : Option Value :=
  if n.isInteger then
    if minInt ≤ n.toInt ∧ n.toInt ≤ maxInt then some (.int n.toInt) else none
  else
    (Double.ofNumeral? n).map .double

end Numeral

namespace Json

/-- The key under which the message of a failing call stands. -/
def errorKey : String := "error"

/-- The message of a failing call, if the value announces one: an object with a text under the
key {lit}`error`, whatever its other fields. -/
def failure? : Json → Option String
  | .object fields =>
      match fields.lookup errorKey with
      | some (.string message) => some message
      | _ => none
  | _ => none

mutual

/-- The typed value of a JSON value that stands at a location; failing calls are not recognised. -/
def classifyNested (here : Location) : Json → Except ValueFault Value
  | .null => .ok .null
  | .bool b => .ok (.bool b)
  | .number n =>
      match n.value? with
      | some value => .ok value
      | none => .error (.outOfRange here n)
  | .string s => .ok (.string s)
  | .array items => (classifyItems here 0 items).map .array
  | .object fields => (classifyFields here fields).map .map

/-- The typed values of the items of the array at a location, from an index on. -/
def classifyItems (here : Location) (i : Nat) : List Json → Except ValueFault (List Value)
  | [] => .ok []
  | item :: items =>
      match classifyNested (here.index i) item with
      | .error fault => .error fault
      | .ok value => (classifyItems here (i + 1) items).map (value :: ·)

/-- The typed values of the fields of the object at a location. -/
def classifyFields (here : Location) :
    List (String × Json) → Except ValueFault (List (String × Value))
  | [] => .ok []
  | (key, field) :: fields =>
      match classifyNested (here.key key) field with
      | .error fault => .error fault
      | .ok value => (classifyFields here fields).map ((key, value) :: ·)

end

/-- The typed value of a JSON value that stands at a location and has a role there. -/
def classify (role : Role) (here : Location) (value : Json) : Except ValueFault Value :=
  match value.failure? with
  | some message =>
      match role with
      | .expected => .ok (.error message)
      | .input => .error (.reserved here message)
  | none => classifyNested here value

end Json

end Casebook
