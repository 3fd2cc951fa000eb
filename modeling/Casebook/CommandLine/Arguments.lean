/-!
# Arguments of the command line

The program has commands with options.  An option with a value takes it from the same argument or
from the following one; the option for inputs takes all following arguments that are not options.

Main definitions:

- {lit}`Invocation`: what the program is asked to do.
- {lit}`Request.ofArguments`: the request that the arguments make.
-/

namespace Casebook

/-- What is done with the documents. -/
inductive Task where
  /-- Write the models, into a directory if one is given. -/
  | model (out : Option String)
  /-- Print the signatures. -/
  | signatures
  deriving DecidableEq, Repr

/-- What the program is asked to do. -/
structure Invocation where
  task : Task
  /-- The files to be read, by name or by pattern. -/
  inputs : List String
  /-- The part of each file that is the document. -/
  pointer : Option String
  /-- Warnings count as failures. -/
  denyWarnings : Bool
  /-- How often more messages are asked for. -/
  verbosity : Nat
  deriving DecidableEq, Repr

/-- The commands. -/
inductive CommandName where
  | model
  | signatures
  | help
  deriving DecidableEq, Repr

namespace CommandName

/-- All commands. -/
def all : List CommandName :=
  [.model, .signatures, .help]

/-- The name of a command. -/
def name : CommandName → String
  | .model => "model"
  | .signatures => "signatures"
  | .help => "help"

/-- What a command does. -/
def description : CommandName → String
  | .model => "print (or write) the typed exercise model as JSON"
  | .signatures => "print one line per inferred signature"
  | .help => "Print this message or the help of the given subcommand(s)"

end CommandName

/-- Why the arguments make no request. -/
inductive UsageFault where
  | missingCommand
  | unknownCommand (word : String)
  | unknownOption (option : String)
  | unexpectedArgument (word : String)
  /-- An option without a value is given one. -/
  | unexpectedValue (option : String)
  /-- An option with a value is given none. -/
  | missingValue (option : String)
  /-- An option that may be given once is given again. -/
  | repeated (option : String)
  | missingInputs
  deriving DecidableEq, Repr

/-- What the arguments ask for. -/
inductive Request where
  /-- Help on the program or on one of its commands. -/
  | help (command : Option CommandName)
  | version
  | run (invocation : Invocation)
  deriving DecidableEq, Repr

namespace CommandLine

/-! ## Options -/

/-- The options of the commands. -/
inductive CommandOption where
  | inputs
  | pointer
  | out
  | denyWarnings
  | verbose
  | help
  deriving DecidableEq, Repr

namespace CommandOption

/-- The full name of an option. -/
def name : CommandOption → String
  | .inputs => "input"
  | .pointer => "json-pointer"
  | .out => "out"
  | .denyWarnings => "deny-warnings"
  | .verbose => "verbose"
  | .help => "help"

/-- The letter of an option, if it has one. -/
def letter? : CommandOption → Option Char
  | .inputs => some 'i'
  | .pointer => none
  | .out => some 'o'
  | .denyWarnings => none
  | .verbose => some 'v'
  | .help => some 'h'

/-- What the value of an option stands for, if the option has one. -/
def valueName? : CommandOption → Option String
  | .inputs => some "INPUT"
  | .pointer => some "JSON_POINTER"
  | .out => some "OUT"
  | _ => none

/-- An option has a value. -/
def hasValue (option : CommandOption) : Bool :=
  option.valueName?.isSome

/-- More may be said with an option than once: it takes several values, or it counts. -/
def isRepeatable : CommandOption → Bool
  | .inputs => true
  | .verbose => true
  | _ => false

/-- What an option is for.  The remark that a setting of the environment overrides the option for
more messages is left out, as the environment is not looked at. -/
def description : CommandOption → String
  | .inputs => "One or more inputs. May be literal paths or quoted glob patterns"
  | .pointer => "JSON Pointer to select a subnode in each document (e.g. /data/canonical)"
  | .out => "output directory, one `<slug>.json` per document (stdout if omitted)"
  | .denyWarnings => "exit non-zero when any document produced warnings"
  | .verbose => "more log output (-v debug, -vv trace)"
  | .help => "Print help"

/-- The options of a command. -/
def ofCommand : CommandName → List CommandOption
  | .model => [.pointer, .inputs, .denyWarnings, .out, .verbose, .help]
  | .signatures => [.pointer, .inputs, .denyWarnings, .verbose, .help]
  | .help => []

end CommandOption

/-- How an argument is to be understood. -/
inductive Word where
  /-- Two hyphens by themselves: no option follows. -/
  | terminator
  /-- An option by its full name, perhaps with a value after an equals sign. -/
  | long (name : String) (value : Option String)
  /-- Options by their letters. -/
  | letters (letters : List Char)
  /-- Anything else. -/
  | plain (text : String)
  deriving DecidableEq, Repr

/-- The characters before the first equals sign, and those after it if there is one. -/
def splitAtEquals : List Char → List Char × Option (List Char)
  | [] => ([], none)
  | '=' :: rest => ([], some rest)
  | c :: rest => (c :: (splitAtEquals rest).1, (splitAtEquals rest).2)

/-- How an argument is to be understood.  A single hyphen is not an option. -/
def Word.ofArgument (argument : String) : Word :=
  match argument.toList with
  | ['-', '-'] => .terminator
  | '-' :: '-' :: rest =>
      let (name, value) := splitAtEquals rest
      .long (String.ofList name) (value.map String.ofList)
  | '-' :: c :: rest => .letters (c :: rest)
  | _ => .plain argument

/-! ## Options of a command -/

/-- The options that have been read. -/
structure Settings where
  inputs : List String
  pointer : Option String
  out : Option String
  denyWarnings : Bool
  verbosity : Nat
  /-- Help is asked for. -/
  wantsHelp : Bool

/-- Nothing has been read. -/
def Settings.initial : Settings :=
  ⟨[], none, none, false, 0, false⟩

/-- An option that waits for values in the following arguments, and the values so far, the last one
first. -/
structure Waiting where
  option : CommandOption
  values : List String

/-- The reading of the options of a command. -/
structure Reading where
  settings : Settings
  waiting : Option Waiting

namespace Settings

/-- An option takes effect.  Only inputs may be given more than once, and a directory must have a
name. -/
def apply (settings : Settings) (option : CommandOption) (values : List String) :
    Except UsageFault Settings :=
  match option, values with
  | .inputs, [] => .error (.missingValue option.name)
  | .inputs, values => .ok { settings with inputs := settings.inputs ++ values }
  | .pointer, [value] =>
      if settings.pointer.isSome then .error (.repeated option.name)
      else .ok { settings with pointer := some value }
  | .pointer, _ => .error (.missingValue option.name)
  | .out, [value] =>
      if settings.out.isSome then .error (.repeated option.name)
      else if value = "" then .error (.missingValue option.name)
      else .ok { settings with out := some value }
  | .out, _ => .error (.missingValue option.name)
  | .denyWarnings, _ =>
      if settings.denyWarnings then .error (.repeated option.name)
      else .ok { settings with denyWarnings := true }
  | .verbose, _ => .ok { settings with verbosity := settings.verbosity + 1 }
  | .help, _ => .ok { settings with wantsHelp := true }

end Settings

namespace Reading

/-- No further value comes for the option that waits for values. -/
def settle (reading : Reading) : Except UsageFault Settings :=
  match reading.waiting with
  | none => .ok reading.settings
  | some waiting => reading.settings.apply waiting.option waiting.values.reverse

/-- An option takes effect with the values that are known. -/
def take (reading : Reading) (option : CommandOption) (values : List String) :
    Except UsageFault Reading := do
  let settings ← (← reading.settle).apply option values
  return ⟨settings, none⟩

/-- An option starts to wait for values. -/
def await (reading : Reading) (option : CommandOption) : Except UsageFault Reading := do
  return ⟨← reading.settle, some ⟨option, []⟩⟩

/-- Options by their letters.  The characters after the letter of an option with a value are the
value. -/
def letters (options : List CommandOption) (reading : Reading) :
    List Char → Except UsageFault Reading
  | [] => .ok reading
  | c :: rest =>
      match options.find? fun option => option.letter? == some c with
      | none => .error (.unknownOption (String.ofList ['-', c]))
      | some option =>
          if option.hasValue then
            match rest with
            | [] => reading.await option
            | '=' :: value => reading.take option [String.ofList value]
            | value => reading.take option [String.ofList value]
          else do
            let reading ← reading.take option []
            if reading.settings.wantsHelp then return reading else reading.letters options rest

/-- An option by its full name. -/
def long (options : List CommandOption) (reading : Reading) (name : String)
    (value : Option String) : Except UsageFault Reading :=
  match options.find? fun option => option.name == name with
  | none => .error (.unknownOption ("--" ++ name))
  | some option =>
      match option.hasValue, value with
      | true, some value => reading.take option [value]
      | true, none => reading.await option
      | false, some _ => .error (.unexpectedValue option.name)
      | false, none => reading.take option []

/-- An argument that is not an option: a value for the option that waits for one. -/
def plain (reading : Reading) (text : String) : Except UsageFault Reading :=
  match reading.waiting with
  | none => .error (.unexpectedArgument text)
  | some waiting =>
      if waiting.option = .inputs ∨ waiting.values = [] then
        .ok { reading with waiting := some { waiting with values := text :: waiting.values } }
      else
        .error (.unexpectedArgument text)

/-- The settings after the rest of the arguments; a request for help ends the reading. -/
def finish (options : List CommandOption) (reading : Reading) :
    List String → Except UsageFault Settings
  | [] => reading.settle
  | argument :: rest =>
      if reading.settings.wantsHelp then .ok reading.settings
      else
        match Word.ofArgument argument with
        | .terminator =>
            match rest with
            | [] => reading.settle
            | word :: _ => .error (.unexpectedArgument word)
        | .long name value => do (← reading.long options name value).finish options rest
        | .letters letters => do (← reading.letters options letters).finish options rest
        | .plain text => do (← reading.plain text).finish options rest

end Reading

/-- The request that the arguments after a command make.  Messages asked for after the command
count, and only otherwise those asked for before it. -/
def ofCommand (command : CommandName) (verbosity : Nat) (arguments : List String) :
    Except UsageFault Request := do
  let start : Reading := ⟨Settings.initial, none⟩
  let settings ← start.finish (CommandOption.ofCommand command) arguments
  if settings.wantsHelp then
    return .help (some command)
  else if settings.inputs.isEmpty then
    .error .missingInputs
  else
    return .run {
      task := if command = .model then .model settings.out else .signatures
      inputs := settings.inputs
      pointer := settings.pointer
      denyWarnings := settings.denyWarnings
      verbosity := if settings.verbosity = 0 then verbosity else settings.verbosity }

/-! ## Commands -/

/-- The command with a name. -/
def command? (word : String) : Option CommandName :=
  CommandName.all.find? fun command => command.name == word

/-- The request made by asking for help on the commands in the arguments. -/
def helpOn : List String → Except UsageFault Request
  | [] => .ok (.help none)
  | [word] =>
      match command? word with
      | some command => .ok (.help (some command))
      | none => .error (.unknownCommand word)
  | _ :: word :: _ => .error (.unknownCommand word)

/-- What letters in front of the command ask for: more messages, or an answer at once. -/
def leadingLetters (verbosity : Nat) : List Char → Except UsageFault (Nat ⊕ Request)
  | [] => .ok (.inl verbosity)
  | 'v' :: rest => leadingLetters (verbosity + 1) rest
  | 'h' :: _ => .ok (.inr (.help none))
  | 'V' :: _ => .ok (.inr .version)
  | c :: _ => .error (.unknownOption (String.ofList ['-', c]))

/-- The request that the arguments make, more messages having been asked for some times. -/
def ofArguments (verbosity : Nat) : List String → Except UsageFault Request
  | [] => .error .missingCommand
  | argument :: rest =>
      match Word.ofArgument argument with
      | .terminator => .error .missingCommand
      | .long "verbose" none => ofArguments (verbosity + 1) rest
      | .long "help" none => .ok (.help none)
      | .long "version" none => .ok .version
      | .long name _ => .error (.unknownOption ("--" ++ name))
      | .letters letters =>
          match leadingLetters verbosity letters with
          | .error fault => .error fault
          | .ok (.inl verbosity) => ofArguments verbosity rest
          | .ok (.inr request) => .ok request
      | .plain text =>
          match command? text with
          | none => .error (.unknownCommand text)
          | some .help => helpOn rest
          | some command => ofCommand command verbosity rest

end CommandLine

/-- The request that the arguments make. -/
def Request.ofArguments (arguments : List String) : Except UsageFault Request :=
  CommandLine.ofArguments 0 arguments

/-- An option takes its value from its own argument or from the next one. -/
example : (Request.ofArguments ["model", "-vi=a", "--input", "b", "c", "-o", "d"]).toOption =
    some (.run ⟨.model (some "d"), ["a", "b", "c"], none, false, 1⟩) := by
  decide +kernel

namespace UsageFault

/-- The message that describes a fault.  What the arguments may be is not listed with it. -/
def message : UsageFault → String
  | .missingCommand => "a command is required: model, signatures, or help"
  | .unknownCommand word => "unrecognized command '" ++ word ++ "'"
  | .unknownOption option => "unexpected option '" ++ option ++ "'"
  | .unexpectedArgument word => "unexpected argument '" ++ word ++ "'"
  | .unexpectedValue option => "option '--" ++ option ++ "' takes no value"
  | .missingValue option => "option '--" ++ option ++ "' requires a value"
  | .repeated option => "option '--" ++ option ++ "' cannot be used multiple times"
  | .missingInputs => "option '--input' is required"

end UsageFault

end Casebook
