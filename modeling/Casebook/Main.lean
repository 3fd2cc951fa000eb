import Casebook.CommandLine.Run

/-!
# The program

The command line on the real file system.
-/

namespace Casebook

/-- The number of a system error, which some operations give with a minus sign. -/
def systemErrorNumber (code : UInt32) : Nat :=
  if code < 0x80000000 then code.toNat else (0 - code).toNat

/-- The fault with a number and a description. -/
def FileFault.ofNumber (number : Nat) (description : String) : FileFault :=
  match number with
  | 2 => .notFound
  | 13 => .other 13 "Permission denied"
  | 17 => .alreadyExists
  | 20 => .notDirectory
  | 21 => .isDirectory
  | 36 => .nameTooLong
  | number => .other number description

/-- The fault that an error of the system tells. -/
def FileFault.ofSystemError : IO.Error → FileFault
  | .noFileOrDirectory _ code details => .ofNumber (systemErrorNumber code) details
  | .alreadyExists _ code details => .ofNumber (systemErrorNumber code) details
  | .inappropriateType _ code details => .ofNumber (systemErrorNumber code) details
  | .invalidArgument _ code details => .ofNumber (systemErrorNumber code) details
  | .permissionDenied _ code details => .ofNumber (systemErrorNumber code) details
  | .resourceExhausted _ code details => .ofNumber (systemErrorNumber code) details
  | .otherError code details => .ofNumber (systemErrorNumber code) details
  | error => .other 0 (toString error)

/-- The result of an action, or the fault that ended it. -/
def attempt {α : Type} (action : IO α) : IO (Except FileFault α) := do
  match ← action.toBaseIO with
  | .ok result => return .ok result
  | .error error => return .error (.ofSystemError error)

instance : FileSystem IO where
  isPresent path := do return (← attempt (IO.FS.realPath path)).toOption.isSome
  isDirectory path := do
    match ← attempt (IO.FS.realPath path) with
    | .ok place => place.isDir
    | .error _ => return false
  list path := attempt do
    let place ← IO.FS.realPath path
    return ((← place.readDir).map fun entry => entry.fileName).toList
  read path := attempt (IO.FS.readBinFile path)
  makeDirectory path := attempt (IO.FS.createDir path)
  write path text := attempt (IO.FS.writeFile path text)

end Casebook

/-- Carry out what the arguments ask for, and print the output. -/
def main (arguments : List String) : IO UInt32 := do
  let output ← Casebook.CommandLine.execute (m := IO) true arguments
  IO.print output.standard
  IO.eprint output.errors
  return output.exit.toUInt32
