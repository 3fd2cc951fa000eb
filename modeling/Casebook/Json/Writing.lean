import Casebook.Json.Basic
import Casebook.Text.Hex

/-!
# Writing JSON

A value is written compactly, without blanks, or in the open form: one item or field a line,
indented by two blanks for each array or object around it.

Main definitions:

- {lit}`Json.quoted`: a string between quotes, with the necessary escapes.
- {lit}`Json.compact`: the compact form.
- {lit}`Json.pretty`: the open form.
-/

namespace Casebook
namespace Json

/-- The written form of a character in a string.  Only the quote, the backslash and the control
characters below the blank are escaped. -/
def escaped (c : Char) : List Char :=
  if c = '"' then ['\\', '"']
  else if c = '\\' then ['\\', '\\']
  else if c = '\x08' then ['\\', 'b']
  else if c = '\t' then ['\\', 't']
  else if c = '\n' then ['\\', 'n']
  else if c = '\x0c' then ['\\', 'f']
  else if c = '\r' then ['\\', 'r']
  else if c < ' ' then ['\\', 'u', '0', '0', Text.hexChar (c.toNat / 16), Text.hexChar (c.toNat % 16)]
  else [c]

/-- A string between quotes. -/
def quoted (s : String) : List Char :=
  '"' :: s.toList.flatMap escaped ++ ['"']

/-- The written form of a truth value. -/
def boolChars (b : Bool) : List Char :=
  if b then ['t', 'r', 'u', 'e'] else ['f', 'a', 'l', 's', 'e']

/-! ## Compact form -/

mutual

/-- The characters of the compact form. -/
def compactChars : Json → List Char
  | .null => ['n', 'u', 'l', 'l']
  | .bool b => boolChars b
  | .number n => n.chars
  | .string s => quoted s
  | .array items => '[' :: compactItems items ++ [']']
  | .object fields => '\x7b' :: compactFields fields ++ ['\x7d']

/-- The items of an array, a comma between two of them. -/
def compactItems : List Json → List Char
  | [] => []
  | [item] => compactChars item
  | item :: items => compactChars item ++ ',' :: compactItems items

/-- The fields of an object, a comma between two of them. -/
def compactFields : List (String × Json) → List Char
  | [] => []
  | [(key, value)] => quoted key ++ ':' :: compactChars value
  | (key, value) :: fields => quoted key ++ ':' :: compactChars value ++ ',' :: compactFields fields

end

/-- The compact form. -/
def compact (value : Json) : String :=
  String.ofList (compactChars value)

/-! ## Open form -/

/-- A line break and the indentation of the next line. -/
def lineBreak (depth : Nat) : List Char :=
  '\n' :: List.replicate (2 * depth) ' '

mutual

/-- The characters of the open form of a value inside {lit}`depth` arrays and objects. -/
def prettyChars (depth : Nat) : Json → List Char
  | .null => ['n', 'u', 'l', 'l']
  | .bool b => boolChars b
  | .number n => n.chars
  | .string s => quoted s
  | .array [] => ['[', ']']
  | .array (item :: items) =>
      '[' :: lineBreak (depth + 1) ++ prettyChars (depth + 1) item
        ++ prettyItems (depth + 1) items ++ lineBreak depth ++ [']']
  | .object [] => ['\x7b', '\x7d']
  | .object ((key, value) :: fields) =>
      '\x7b' :: lineBreak (depth + 1) ++ quoted key ++ ':' :: ' ' :: prettyChars (depth + 1) value
        ++ prettyFields (depth + 1) fields ++ lineBreak depth ++ ['\x7d']

/-- The further items of an array, each after a comma and a line break. -/
def prettyItems (depth : Nat) : List Json → List Char
  | [] => []
  | item :: items =>
      ',' :: lineBreak depth ++ prettyChars depth item ++ prettyItems depth items

/-- The further fields of an object, each after a comma and a line break. -/
def prettyFields (depth : Nat) : List (String × Json) → List Char
  | [] => []
  | (key, value) :: fields =>
      ',' :: lineBreak depth ++ quoted key ++ ':' :: ' ' :: prettyChars depth value
        ++ prettyFields depth fields

end

/-- The open form, without a line break at its end. -/
def pretty (value : Json) : String :=
  String.ofList (prettyChars 0 value)

end Json
end Casebook
