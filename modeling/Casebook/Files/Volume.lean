import Casebook.Files.Path
import Casebook.Files.System

/-!
# Volumes

A volume is a file system that is a value: a tree of directories and files, and the directory that
relative paths start at.  It has no links, so that every directory has one path without detours.

Main definitions:

- {lit}`Node`: a file or a directory with everything in it.
- {lit}`Volume`: a tree with a working directory.
- {lit}`Volume.resolve`: where a path leads.
-/

namespace Casebook

/-- A file, or a directory with everything in it. -/
inductive Node where
  | file (contents : ByteArray)
  | directory (entries : List (String × Node))
  deriving Inhabited

namespace Node

/-- The node is a directory. -/
def isDirectory : Node → Bool
  | .directory _ => true
  | .file _ => false

/-- The node under a name. -/
def child? (name : String) : Node → Option Node
  | .directory entries => entries.lookup name
  | .file _ => none

/-- The node that some names lead to, from directory to directory. -/
def at? (node : Node) : List String → Option Node
  | [] => some node
  | name :: names => (node.child? name).bind fun child => child.at? names

/-- Set or replace the node under a name in the entries of a directory. -/
def setEntry (name : String) (child : Node) : List (String × Node) → List (String × Node)
  | [] => [(name, child)]
  | (other, node) :: entries =>
      if other = name then (name, child) :: entries
      else (other, node) :: setEntry name child entries

/-- Set or replace the node that some names lead to; missing directories are made, and a file on
the way gives place to a directory. -/
def set : Node → List String → Node → Node
  | _, [], child => child
  | .directory entries, name :: names, child =>
      let inner := (entries.lookup name).getD (.directory [])
      .directory (setEntry name (inner.set names child) entries)
  | .file _, name :: names, child => .directory [(name, (directory []).set names child)]

mutual

/-- The files at or below a node, each with the names that lead to it. -/
def files : Node → List (List String × ByteArray)
  | .file contents => [([], contents)]
  | .directory entries => entryFiles entries

/-- The files at or below some entries of a directory. -/
def entryFiles : List (String × Node) → List (List String × ByteArray)
  | [] => []
  | (name, node) :: entries =>
      (files node).map (fun file => (name :: file.1, file.2)) ++ entryFiles entries

end

end Node

/-- A tree of files and the names that lead from its root to the working directory. -/
structure Volume where
  root : Node
  here : List String
  deriving Inhabited

namespace Volume

/-- The greatest number of bytes in a name. -/
def maxName : Nat := 255

/-- The number of bytes from which on a path is too long. -/
def pathLimit : Nat := 4096

/-- Follow names through a tree, from a place given by the names that lead to it.  Names can only
be followed from a directory; an empty name and a single point lead nowhere else, and a double
point leads back. -/
def follow (root : Node) (place : List String) : List String → Except FileFault (List String)
  | [] => .ok place
  | name :: names =>
      match root.at? place with
      | some (.directory entries) =>
          if name = "" ∨ name = "." then follow root place names
          else if name = ".." then follow root place.dropLast names
          else if maxName < name.utf8ByteSize then .error .nameTooLong
          else if (entries.lookup name).isSome then follow root (place ++ [name]) names
          else .error .notFound
      | _ => .error .notDirectory

/-- A path that the system does not even look at. -/
def refused? (path : String) : Option FileFault :=
  if path.toList.contains '\x00' then some .nulInName
  else if path.isEmpty then some .notFound
  else if pathLimit ≤ path.utf8ByteSize then some .nameTooLong
  else none

/-- The place that a path starts at. -/
def start (volume : Volume) (path : String) : List String :=
  if Path.isAbsolute path then [] else volume.here

/-- Where a path leads: the names from the root to an existing node. -/
def resolve (volume : Volume) (path : String) : Except FileFault (List String) :=
  match refused? path with
  | some fault => .error fault
  | none => follow volume.root (volume.start path) (Path.names path)

/-- The node that a path leads to. -/
def node? (volume : Volume) (path : String) : Except FileFault Node := do
  let place ← volume.resolve path
  match volume.root.at? place with
  | some node => return node
  | none => .error .notFound

/-- Where a path leads that may name a new entry of a directory: the place of the directory and the
name; no name if the path ends in one that leads nowhere else or back. -/
def resolveNew (volume : Volume) (path : String) :
    Except FileFault (List String × Option String) :=
  match refused? path with
  | some fault => .error fault
  | none => do
      let names := (Path.names path).reverse.dropWhile (fun name => name = "")
      match names with
      | [] => return ([], none)
      | name :: before =>
          let place ← follow volume.root (volume.start path) before.reverse
          match volume.root.at? place with
          | some (.directory _) =>
              if name = "." ∨ name = ".." then return (place, none)
              else if maxName < name.utf8ByteSize then .error .nameTooLong
              else return (place, some name)
          | _ => .error .notDirectory

/-- The names in a directory. -/
def list (volume : Volume) (path : String) : Except FileFault (List String) := do
  match ← volume.node? path with
  | .directory entries => return entries.map Prod.fst
  | .file _ => .error .notDirectory

/-- The contents of a file. -/
def read (volume : Volume) (path : String) : Except FileFault ByteArray := do
  match ← volume.node? path with
  | .file contents => return contents
  | .directory _ => .error .isDirectory

/-- The volume with one more directory. -/
def makeDirectory (volume : Volume) (path : String) : Except FileFault Volume := do
  match ← volume.resolveNew path with
  | (_, none) => .error .alreadyExists
  | (place, some name) =>
      if (volume.root.at? (place ++ [name])).isSome then .error .alreadyExists
      else return { volume with root := volume.root.set (place ++ [name]) (.directory []) }

/-- The volume with a file that has a text as its contents. -/
def write (volume : Volume) (path text : String) : Except FileFault Volume := do
  match ← volume.resolveNew path with
  | (_, none) => .error .isDirectory
  | (place, some name) =>
      match volume.root.at? (place ++ [name]) with
      | some (.directory _) => .error .isDirectory
      | _ => return { volume with root := volume.root.set (place ++ [name]) (.file text.toUTF8) }

/-- Carry out an operation that changes the volume, unless it fails. -/
def change (operation : Volume → Except FileFault Volume) :
    StateM Volume (Except FileFault Unit) := do
  match operation (← get) with
  | .error fault => return .error fault
  | .ok volume =>
      set volume
      return .ok ()

instance : FileSystem (StateM Volume) where
  isPresent path := do return ((← get).node? path).toOption.isSome
  isDirectory path := do return (((← get).node? path).toOption.map Node.isDirectory).getD false
  list path := do return (← get).list path
  read path := do return (← get).read path
  makeDirectory path := change fun volume => volume.makeDirectory path
  write path text := change fun volume => volume.write path text

end Volume

end Casebook
