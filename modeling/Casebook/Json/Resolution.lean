import Casebook.Json.Token
import Casebook.Table

/-!
# What written JSON denotes

A written object may repeat a key: the key keeps its first place and takes its last value.  A
written object may also stand for a number: its only key is the number key, and the value under it
is a text that spells the number.  An object that begins with the number key and does not stand for
a number denotes nothing; after another key the number key is a key like any other.

Main definitions:

- {lit}`Json.numberKey`: the number key.
- {lit}`Json.ofFields?`: what an object with some fields denotes.
- {lit}`Json.resolve?`: what a written value denotes.
-/

namespace Casebook
namespace Json

/-- The key of an object that stands for a number. -/
def numberKey : String := "$serde_json::private::Number"

/-- The number that a text spells. -/
def spelledNumber? : Json → Option Json
  | .string text => (numeral? text).map .number
  | _ => none

/-- What an object denotes whose fields are given as they are written. -/
def ofFields? : List (String × Json) → Option Json
  | [] => some (.object [])
  | (key, value) :: fields =>
      if key = numberKey then
        if fields.isEmpty then spelledNumber? value else none
      else
        some (.object (Table.ofList ((key, value) :: fields)).entries)

mutual

/-- What a written value denotes. -/
def resolve? : Json → Option Json
  | .array items => (resolveItems? items).map .array
  | .object fields => (resolveFields? fields).bind ofFields?
  | other => some other

/-- What the items of a written array denote. -/
def resolveItems? : List Json → Option (List Json)
  | [] => some []
  | item :: items =>
      match resolve? item with
      | none => none
      | some item => (resolveItems? items).map (item :: ·)

/-- The fields of a written object with what their values denote. -/
def resolveFields? : List (String × Json) → Option (List (String × Json))
  | [] => some []
  | (key, value) :: fields =>
      match resolve? value with
      | none => none
      | some value => (resolveFields? fields).map ((key, value) :: ·)

end

/-- A repeated key keeps its first place and takes its last value. -/
example : (resolve? (.object [("a", .null), ("b", .null), ("a", .bool true)])).map shape =
    some .object := by
  decide +kernel

end Json
end Casebook
