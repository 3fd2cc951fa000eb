import Casebook.Json.Basic
import Casebook.Text.Pieces

/-!
# JSON pointers

A pointer selects one value inside another: it is empty, or a sequence of keys and indices each
after a slash.  In a key, {lit}`~1` stands for a slash and {lit}`~0` for a tilde.

Main definitions:

- {lit}`Json.Pointer.tokens?`: the keys and indices of a pointer.
- {lit}`Json.select?`: the value that a pointer selects.
-/

namespace Casebook
namespace Json

namespace Pointer

/-- A reference token with its escapes resolved; a tilde that begins no escape stands for
itself. -/
def unescape : List Char → List Char
  | [] => []
  | '~' :: '1' :: rest => '/' :: unescape rest
  | '~' :: '0' :: rest => '~' :: unescape rest
  | c :: rest => c :: unescape rest

/-- The reference tokens of a pointer; none if it is not empty and does not start with a slash. -/
def tokens? : List Char → Option (List String)
  | [] => some []
  | '/' :: rest => some ((Text.pieces '/' rest).map fun piece => String.ofList (unescape piece))
  | _ => none

/-- The index that a reference token denotes: decimal digits without a leading zero. -/
def index? (token : String) : Option Nat :=
  match token.toList with
  | [] => none
  | c :: rest =>
      if c = '0' ∧ rest ≠ [] then none
      else ((c :: rest).mapM Digit.ofChar?).map Digit.value

end Pointer

/-- The member of an array or object that a reference token names. -/
def member? (token : String) : Json → Option Json
  | .object fields => fields.lookup token
  | .array items => (Pointer.index? token).bind fun i => items[i]?
  | _ => none

/-- The value that a pointer selects. -/
def select? (pointer : String) (value : Json) : Option Json :=
  (Pointer.tokens? pointer.toList).bind fun tokens =>
    tokens.foldlM (fun target token => member? token target) value

end Json
end Casebook
