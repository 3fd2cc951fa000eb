import Casebook.Files.Path
import Casebook.Files.Pattern
import Casebook.Files.System

/-!
# Expansion of patterns

A pattern is expanded to the paths of the files and directories that it names.  The names in a
directory come in ascending order, and what is found below a directory comes after the directory.

Main definitions:

- {lit}`Expansion.Found`: something found in a directory.
- {lit}`Expansion.visit`: the paths that a pattern names at or below something found.
- {lit}`Expansion.enter`: the paths that a pattern names below a directory.
- {lit}`Expansion.expand`: the paths that a whole pattern names.
-/

namespace Casebook

/-- Why a pattern cannot be expanded. -/
inductive ExpansionFault where
  /-- It is not a pattern. -/
  | pattern (fault : Pattern.PatternFault)
  /-- A directory cannot be read. -/
  | unreadable (path : String) (fault : FileFault)
  deriving DecidableEq, Repr

/-- The message that describes a fault. -/
def ExpansionFault.message : ExpansionFault → String
  | .pattern cause => cause.message
  | .unreadable path cause =>
      "attempting to read `" ++ path ++ "` resulted in an error: " ++ cause.message ++ ": "
        ++ cause.message

namespace Expansion

open Pattern (Component)

/-- Something found in a directory: its name and its path. -/
structure Found where
  name : String
  path : String

section

variable {m : Type → Type} [Monad m] [FileSystem m]

/-- The working directory. -/
def workingDirectory : String := "."

/-- A path followed from a directory; the working directory itself is not mentioned, however its
path is written. -/
def follow (directory path : String) : String :=
  if Path.staysHere directory then path else Path.join directory path

/-- A path at the end of a pattern: it counts unless only directories do and it is none. -/
def arrive (onlyDirectories : Bool) (path : String) : m (List String) := do
  if onlyDirectories then
    return if ← FileSystem.isDirectory path then [path] else []
  else
    return [path]

/-- A path after which some components of a pattern remain. -/
def goOn (onlyDirectories : Bool)
    (enter : List Component → String → ExceptT ExpansionFault m (List String))
    (rest : List Component) (path : String) : ExceptT ExpansionFault m (List String) :=
  if rest.isEmpty then arrive (m := m) onlyDirectories path else enter rest path

/-- The paths that the components of a pattern name at or below something found, if no component
stands for directories to any depth at their beginning. -/
def visitOne (onlyDirectories : Bool)
    (enter : List Component → String → ExceptT ExpansionFault m (List String))
    (components : List Component) (found : Found) : ExceptT ExpansionFault m (List String) :=
  match components with
  | [] => return []
  | component :: rest =>
      if component.fits found.name.toList then goOn onlyDirectories enter rest found.path
      else return []

/-- The paths that the components of a pattern name at or below something found.  Where directories
to any depth may come first, what lies below a directory follows what the directory itself gives. -/
def visit (onlyDirectories : Bool)
    (enter : List Component → String → ExceptT ExpansionFault m (List String))
    (components : List Component) (found : Found) : ExceptT ExpansionFault m (List String) :=
  let rest := components.dropWhile (fun component => component = .anyDirectories)
  if rest.length = components.length then
    visitOne onlyDirectories enter components found
  else do
    let isDirectory ← FileSystem.isDirectory (m := m) found.path
    let here ←
      if rest.isEmpty then pure (if isDirectory then [found.path] else [])
      else visitOne onlyDirectories enter rest found
    let below ←
      if isDirectory then enter (.anyDirectories :: rest) found.path else pure []
    return here ++ below

/-- The present and the parent directory, as far as a component names them.  They are named only
where a point stands for itself at the beginning; the parent directory comes first. -/
def pointNames (component : Component) : List String :=
  if component.startsWithPoint then
    ["..", "."].filter fun name => component.fits name.toList
  else
    []

/-- The paths that the components of a pattern name below a directory, down to a limited depth. -/
def enter (onlyDirectories : Bool) (depth : Nat) (components : List Component) (path : String) :
    ExceptT ExpansionFault m (List String) :=
  match depth, components with
  | 0, _ => return []
  | _, [] => return []
  | depth + 1, .exactly name :: rest => do
      let name := String.ofList name
      let target := follow path name
      let isThere ←
        if name = "." ∨ name = ".." then FileSystem.isDirectory (m := m) path
        else FileSystem.isPresent (m := m) target
      if isThere then goOn onlyDirectories (enter onlyDirectories depth) rest target
      else return []
  | depth + 1, component :: rest => do
      if ← FileSystem.isDirectory (m := m) path then
        match ← FileSystem.list (m := m) path with
        | .error fault => throw (.unreadable path fault)
        | .ok names => do
            let points ← (pointNames component).mapM fun name =>
              goOn onlyDirectories (enter onlyDirectories depth) rest (Path.join path name)
            let sorted := names.mergeSort fun a b => decide (a ≤ b)
            let children ← sorted.mapM fun name =>
              visit onlyDirectories (enter onlyDirectories depth) (component :: rest)
                ⟨name, follow path name⟩
            return points.flatten ++ children.flatten
      else
        return []

/-- The greatest number of directories that a path can lead through: no path has more than 4096
bytes, and each directory takes up two of them. -/
def maxDepth : Nat := 2048

/-- The paths that a pattern names. -/
def expand (text : String) : ExceptT ExpansionFault m (List String) :=
  match Pattern.ofText? text with
  | .error fault => throw (.pattern fault)
  | .ok pattern =>
      enter pattern.onlyDirectories (maxDepth + pattern.components.length) pattern.components
        (if pattern.isAbsolute then "/" else workingDirectory)

end

end Expansion

end Casebook
