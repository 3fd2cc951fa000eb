import Casebook.Text.Pieces

/-!
# Paths

A path is a text in which slashes separate names.  A path that starts with a slash starts at the
root of all files, any other one at the working directory.

Main definitions:

- {lit}`Path.join`: a path followed from a directory.
- {lit}`Path.names`: the names in a path.
- {lit}`Path.ancestors`: a path and the paths of the directories around it.
- {lit}`Path.staysHere`: a path leads nowhere else.
-/

namespace Casebook
namespace Path

/-- A path starts at the root of all files. -/
def isAbsolute (path : String) : Bool :=
  path.toList.head? == some '/'

/-- A path followed from a directory; an absolute path leads where it leads from anywhere. -/
def join (directory path : String) : String :=
  if isAbsolute path then path
  else if directory.toList.isEmpty || directory.toList.getLast? == some '/' then directory ++ path
  else directory ++ "/" ++ path

/-- The names between the slashes of a path, the empty ones included. -/
def names (path : String) : List String :=
  (Text.pieces '/' path.toList).map String.ofList

/-- The names of a relative path that lead on, the last one first: empty names are passed over, and
so is the name of the present directory except at the very beginning. -/
def leading : List String → List String → List String
  | trail, [] => trail
  | trail, name :: rest =>
      if name = "" ∨ (name = "." ∧ trail ≠ []) then leading trail rest
      else leading (name :: trail) rest

/-- The paths made of some names, given the last one first, and of all but the last of them, and so
on. -/
def shortened (start : String) : List String → List String
  | [] => []
  | name :: rest => (start ++ "/".intercalate (name :: rest).reverse) :: shortened start rest

/-- A path as it is given, and the paths of the directories around it, the innermost first; the
root and the working directory are left out. -/
def ancestors (path : String) : List String :=
  path :: (shortened (if isAbsolute path then "/" else "") (leading [] (names path))).tail

/-- A path leads from the working directory nowhere else: its names are single points, and empty
ones after the first. -/
def staysHere (path : String) : Bool :=
  match names path with
  | [] => false
  | name :: rest => name = "." && rest.all fun name => name = "" || name = "."

end Path
end Casebook
