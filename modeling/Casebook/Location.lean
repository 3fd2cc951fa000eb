import Casebook.Json.Basic
import Casebook.Text.Quoted

/-!
# Locations inside a JSON value

A location leads from a value to one of the values inside it, key by key and index by index.  In
messages it is written after a dollar sign, with keys after a point where they are plain words and
in brackets otherwise.

Main definitions:

- {lit}`Location`: the steps from the outermost value.
- {lit}`Location.text`: the written form.
- {lit}`Json.at?`: the value at a location.

Main results:

- Theorem {lit}`Json.at?_append`: a location followed by another one leads where the second leads
  from the value at the first.
-/

namespace Casebook

/-- One step into a value. -/
inductive Step where
  /-- Into the field of an object with this key. -/
  | key (name : String)
  /-- Into the item of an array with this index, the first item having index 0. -/
  | index (i : Nat)
  deriving DecidableEq, Repr, Inhabited

namespace Step

/-- A character that may stand in a key written without brackets. -/
def isPlainChar (c : Char) : Bool :=
  ('a' ≤ c && c ≤ 'z') || ('A' ≤ c && c ≤ 'Z') || ('0' ≤ c && c ≤ '9') || c = '_' || c = '-'

/-- A key that is written without brackets. -/
def isPlain (name : String) : Bool :=
  !name.toList.isEmpty && name.toList.all isPlainChar

/-- The characters of a written step. -/
def chars : Step → List Char
  | .key name =>
      if isPlain name then '.' :: name.toList else '[' :: Text.quotedChars name ++ [']']
  | .index i => '[' :: Digit.charsOfNat i ++ [']']

end Step

/-- The steps from the outermost value to one inside it. -/
abbrev Location := List Step

namespace Location

/-- The outermost value. -/
def root : Location :=
  []

/-- The field with this key of the object at a location. -/
def key (location : Location) (name : String) : Location :=
  location ++ [.key name]

/-- The item with this index of the array at a location. -/
def index (location : Location) (i : Nat) : Location :=
  location ++ [.index i]

/-- The characters of the written form. -/
def chars (location : Location) : List Char :=
  '$' :: location.flatMap Step.chars

/-- The written form. -/
def text (location : Location) : String :=
  String.ofList (chars location)

end Location

/-- Keys that are plain words follow a point, other keys and indices stand in brackets. -/
example : Location.chars [.key "a", .index 12, .key "b c"] =
    ['$', '.', 'a', '[', '1', '2', ']', '[', '"', 'b', ' ', 'c', '"', ']'] := by
  decide +kernel

namespace Json

/-- The value one step inside a value. -/
def into? : Json → Step → Option Json
  | .object fields, .key name => fields.lookup name
  | .array items, .index i => items[i]?
  | _, _ => none

/-- The value at a location. -/
def at? (value : Json) : Location → Option Json
  | [] => some value
  | step :: location => (value.into? step).bind fun inner => inner.at? location

/-- The outermost value is the value itself. -/
@[simp]
theorem at?_nil (value : Json) : value.at? [] = some value :=
  rfl

/-- A step leads to the value it names, and from there the rest of the location leads on. -/
@[simp]
theorem at?_cons (value : Json) (step : Step) (location : Location) :
    value.at? (step :: location) = (value.into? step).bind fun inner => inner.at? location :=
  rfl

/-- A location followed by another one leads where the second leads from the value at the
first. -/
theorem at?_append (value : Json) (first second : Location) :
    value.at? (first ++ second) = (value.at? first).bind fun inner => inner.at? second := by
  induction first generalizing value with
  | nil => rfl
  | cons step rest ih =>
      cases h : value.into? step with
      | none => simp [h]
      | some inner => simp [h, ih]

end Json

end Casebook
