import Casebook.Number.Numeral

/-!
# File systems

What a program asks of a file system, whichever it is: a real one, or one that is a value.

Main definitions:

- {lit}`FileFault`: why an operation on files fails.
- {lit}`FileSystem`: the operations, in a monad that carries the state of the files.
-/

namespace Casebook

/-- Why an operation on files fails. -/
inductive FileFault where
  | notFound
  | alreadyExists
  | notDirectory
  | isDirectory
  | nameTooLong
  /-- A name contains the null character. -/
  | nulInName
  /-- The contents of a file are not text. -/
  | notText
  /-- Any other failure, with the number and the description that the system gives it. -/
  | other (code : Nat) (description : String)
  deriving DecidableEq, Repr, Inhabited

namespace FileFault

/-- The message that describes a fault. -/
def message : FileFault → String
  | .notFound => "No such file or directory (os error 2)"
  | .alreadyExists => "File exists (os error 17)"
  | .notDirectory => "Not a directory (os error 20)"
  | .isDirectory => "Is a directory (os error 21)"
  | .nameTooLong => "File name too long (os error 36)"
  | .nulInName => "file name contained an unexpected NUL byte"
  | .notText => "stream did not contain valid UTF-8"
  | .other code description => description ++ " (os error " ++ Digit.textOfNat code ++ ")"

end FileFault

/-- The operations on files. -/
class FileSystem (m : Type → Type) where
  /-- Something is found under a path. -/
  isPresent : String → m Bool
  /-- A directory is found under a path. -/
  isDirectory : String → m Bool
  /-- The names in a directory, in any order. -/
  list : String → m (Except FileFault (List String))
  /-- The contents of a file. -/
  read : String → m (Except FileFault ByteArray)
  /-- Make one directory whose parent is there already. -/
  makeDirectory : String → m (Except FileFault Unit)
  /-- Make a file with a text as its contents, or replace the contents of a file. -/
  write : String → String → m (Except FileFault Unit)

end Casebook
