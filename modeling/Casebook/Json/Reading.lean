import Casebook.Json.Resolution
import Casebook.Json.Token

/-!
# Reading JSON

A value is read token by token.  The arrays and objects that are still open form a stack; their
number is limited, so that a text cannot nest without bound.  The value that is read shows the text
as it is; what the text denotes is found by resolving it.

Main definitions:

- {lit}`Json.Open`: an array or object that is still open around the value being read.
- {lit}`Json.Progress`: what has been read and what may come next.
- {lit}`Json.ofTokens?`: the value that tokens write.
- {lit}`Json.ofText?`: the value that a text denotes.
-/

namespace Casebook
namespace Json

/-- An array or object around the value that is being read. -/
inductive Open where
  /-- An array with its items so far, the last one first. -/
  | array (items : List Json)
  /-- An object with its fields so far, the last one first, and the key of the value that is being
  read. -/
  | object (fields : List (String × Json)) (key : String)

/-- How far the reading of a value has come.  Each state but the last carries the arrays and
objects around it, the innermost first. -/
inductive Progress where
  /-- A value has to follow. -/
  | awaitValue (around : List Open)
  /-- An array was opened: its first item or its end has to follow. -/
  | firstItem (around : List Open)
  /-- An item was read: a comma or the end of the array has to follow. -/
  | afterItem (items : List Json) (around : List Open)
  /-- An object was opened: its first key or its end has to follow. -/
  | firstKey (around : List Open)
  /-- A comma was read in an object: a key has to follow. -/
  | awaitKey (fields : List (String × Json)) (around : List Open)
  /-- A key was read: a colon has to follow. -/
  | awaitColon (fields : List (String × Json)) (key : String) (around : List Open)
  /-- A field was read: a comma or the end of the object has to follow. -/
  | afterField (fields : List (String × Json)) (around : List Open)
  /-- The value is complete: nothing may follow. -/
  | done (value : Json)

/-- The greatest number of arrays and objects that may be open at once. -/
def maxDepth : Nat := 127

namespace Progress

/-- A value is complete: it goes into the innermost open array or object. -/
def complete (value : Json) : List Open → Progress
  | [] => .done value
  | .array items :: around => .afterItem (value :: items) around
  | .object fields key :: around => .afterField ((key, value) :: fields) around

/-- A token where a value has to begin. -/
def begin? (around : List Open) : Token → Option Progress
  | .openArray => if around.length < maxDepth then some (.firstItem around) else none
  | .openObject => if around.length < maxDepth then some (.firstKey around) else none
  | .null => some (complete .null around)
  | .bool b => some (complete (.bool b) around)
  | .number n => some (complete (.number n) around)
  | .string s => some (complete (.string s) around)
  | _ => none

/-- The progress after one more token, if the token is allowed. -/
def step? : Progress → Token → Option Progress
  | .awaitValue around, token => begin? around token
  | .firstItem around, .closeArray => some (complete (.array []) around)
  | .firstItem around, token => begin? (.array [] :: around) token
  | .afterItem items around, .closeArray => some (complete (.array items.reverse) around)
  | .afterItem items around, .comma => some (.awaitValue (.array items :: around))
  | .firstKey around, .closeObject => some (complete (.object []) around)
  | .firstKey around, .string key => some (.awaitColon [] key around)
  | .awaitKey fields around, .string key => some (.awaitColon fields key around)
  | .awaitColon fields key around, .colon => some (.awaitValue (.object fields key :: around))
  | .afterField fields around, .closeObject => some (complete (.object fields.reverse) around)
  | .afterField fields around, .comma => some (.awaitKey fields around)
  | _, _ => none

/-- The value, once it is complete. -/
def result? : Progress → Option Json
  | .done value => some value
  | _ => none

end Progress

/-- The value that a list of tokens writes. -/
def ofTokens? (tokens : List Token) : Option Json :=
  (tokens.foldlM Progress.step? (.awaitValue [])).bind Progress.result?

/-- The value that a text denotes; none if the text is not JSON or nests too deeply. -/
def ofText? (text : String) : Option Json :=
  ((tokens? text.toList).bind ofTokens?).bind resolve?

end Json
end Casebook
