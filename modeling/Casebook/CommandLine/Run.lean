import Casebook.Batch
import Casebook.CommandLine.Arguments
import Casebook.Files.Expansion
import Casebook.Journal
import Casebook.Json.Pointer
import Casebook.Json.Reading
import Casebook.Model.Encoding
import Casebook.Text.Plain

/-!
# Running the program

All documents are loaded first; a document that cannot be loaded ends the run.  Then all are built,
the models are written or the signatures printed, and a summary tells what has become of each.

Main definitions:

- {lit}`Output`: what a run prints, and its exit code.
- {lit}`CommandLine.load`: the documents of an invocation.
- {lit}`CommandLine.writeModels`: the models of a report, one file each.
- {lit}`CommandLine.execute`: the whole program.
-/

namespace Casebook

/-- What a run prints, and its exit code. -/
structure Output where
  exit : Nat
  standard : String
  errors : String
  deriving DecidableEq, Repr

/-- Why a run ends before its summary. -/
inductive RunFault where
  | unresolved (fault : ExpansionFault)
  /-- A pattern names nothing. -/
  | nothingMatched (pattern : String)
  | unreadable (path : String) (fault : FileFault)
  | notJson (path : String)
  | nothingSelected (pointer path : String)
  | uncreatable (directory : String) (fault : FileFault)
  | unwritable (path : String) (fault : FileFault)
  deriving DecidableEq, Repr

namespace RunFault

/-- The message that describes a fault.  Where and why a text is not JSON is left out. -/
def message : RunFault → String
  | .unresolved fault => "failed to resolve input file paths: " ++ fault.message
  | .nothingMatched pattern =>
      "failed to resolve input file paths: glob pattern matched no files: " ++ pattern
  | .unreadable path fault => "failed to read source file (" ++ path ++ "): " ++ fault.message
  | .notJson path => "failed to parse JSON source file (" ++ path ++ ")"
  | .nothingSelected pointer path =>
      "JSON pointer " ++ pointer ++ " selects nothing in " ++ path
  | .uncreatable directory fault => "failed to create " ++ directory ++ ": " ++ fault.message
  | .unwritable path fault => "failed to write " ++ path ++ ": " ++ fault.message

end RunFault

namespace CommandLine

/-! ## Messages -/

/-- Which messages are shown: none, those of a level, or all. -/
inductive Filter where
  | nothing
  | warnings
  | everything
  deriving DecidableEq, Repr

namespace Filter

/-- A message of a level is shown. -/
def shows : Filter → Level → Bool
  | .nothing, _ => false
  | .warnings, level => level = .warn
  | .everything, _ => true

/-- The messages that are shown if more are asked for some times. -/
def ofVerbosity (verbosity : Nat) : Filter :=
  if verbosity = 0 then .warnings else .everything

end Filter

/-- A message with its level and the part of the program that it comes from. -/
structure Message where
  level : Level
  topic : String
  text : String

/-- A word with blanks after it, at least so many characters together. -/
def padded (width : Nat) (word : String) : String :=
  word ++ String.ofList (List.replicate (width - word.length) ' ')

namespace Message

/-- The name under which the program puts its messages. -/
def programName : String := "canon_infer"

/-- A text with the lines after its first one indented by four blanks. -/
def indented (s : List Char) : List Char :=
  s.flatMap fun c => if c = '\n' then ['\n', ' ', ' ', ' ', ' '] else [c]

/-- The characters of a message as it is written, up to and including its last line break. -/
def writtenChars (message : Message) : List Char :=
  ("[" ++ padded 5 message.level.name ++ " " ++ programName ++ "::" ++ message.topic ++ "] ").toList
    ++ indented message.text.toList ++ ['\n']

/-- The text that shows a message: it is plain, whatever the message quotes. -/
def shownText (message : Message) : String :=
  String.ofList (Text.plain message.writtenChars)

/-- The part of the program that an entry of a journal comes from. -/
def topicOf : Event → String
  | .reading _ _ => "document"
  | .conflicting _ => "inference"
  | .inferred _ _ _ _ => "pipeline"

/-- An entry of a journal as a message. -/
def ofEvent (event : Event) : Message :=
  ⟨event.level, topicOf event, event.message⟩

/-- A message about the work of the command line itself. -/
def ofCommandLine (text : String) : Message :=
  ⟨.debug, "cli", text⟩

end Message

/-! ## Loading documents -/

section

variable {m : Type → Type} [Monad m] [FileSystem m]

/-- The paths that an input names: a pattern names all that fits it, anything else is a path. -/
def resolveInput (input : String) : ExceptT RunFault m (List String) := do
  if Pattern.isPattern input then
    match ← (Expansion.expand (m := m) input).run with
    | .error fault => throw (.unresolved fault)
    | .ok [] => throw (.nothingMatched input)
    | .ok paths => return paths
  else
    return [input]

/-- The document in a file. -/
def loadFile (pointer : Option String) (path : String) :
    ExceptT RunFault m (String × Json) := do
  match ← FileSystem.read (m := m) path with
  | .error fault => throw (.unreadable path fault)
  | .ok contents =>
      match String.fromUTF8? contents with
      | none => throw (.unreadable path .notText)
      | some text =>
          match Json.ofText? text with
          | none => throw (.notJson path)
          | some value =>
              match pointer with
              | none => return (path, value)
              | some pointer =>
                  match value.select? pointer with
                  | none => throw (.nothingSelected pointer path)
                  | some part => return (path, part)

/-! ## Writing models -/

/-- Make a directory, given with the directories around it, the innermost first.  It does no harm
if it is there already. -/
def makeDirectories : List String → m (Except FileFault Unit)
  | [] => return .ok ()
  | directory :: around => do
      match ← FileSystem.makeDirectory (m := m) directory with
      | .ok () => return .ok ()
      | .error .notFound =>
          if around.isEmpty then
            return .error .notFound
          else
            match ← makeDirectories around with
            | .error fault => return .error fault
            | .ok () => again directory
      | .error fault => settle directory fault
where
  /-- A failure to make a directory does not matter if it is there. -/
  settle (directory : String) (fault : FileFault) : m (Except FileFault Unit) := do
    if ← FileSystem.isDirectory (m := m) directory then return .ok () else return .error fault
  /-- Make a directory, the directories around it being there. -/
  again (directory : String) : m (Except FileFault Unit) := do
    match ← FileSystem.makeDirectory (m := m) directory with
    | .ok () => return .ok ()
    | .error fault => settle directory fault

/-- The path of the file for a model in a directory. -/
def modelPath (directory : String) (model : Model) : String :=
  Path.join directory (model.slug ++ ".json")

/-- Write a model into its file in a directory, and give the path of the file. -/
def writeModel (directory : String) (model : Model) : ExceptT RunFault m String := do
  match ← makeDirectories (m := m) (Path.ancestors directory) with
  | .error fault => throw (.uncreatable directory fault)
  | .ok () =>
      let path := modelPath directory model
      match ← FileSystem.write (m := m) path model.text with
      | .error fault => throw (.unwritable path fault)
      | .ok () => return path

/-- Write models into their files in a directory, one after the other; the paths of the files that
have been written are given even if one of them fails. -/
def writeModels (directory : String) : List Model → m (List String × Option RunFault)
  | [] => return ([], none)
  | model :: models => do
      match ← (writeModel (m := m) directory model).run with
      | .error fault => return ([], some fault)
      | .ok path => do
          let (paths, fault) ← writeModels directory models
          return (path :: paths, fault)

/-! ## Summaries -/

/-- The lines of the summary on a document. -/
def documentLines (report : DocumentReport) : List String :=
  match report.result with
  | .ok outcome =>
      ("✔ " ++ report.source ++ " (" ++ Digit.textOfNat outcome.model.testCases.length
          ++ " cases)") ::
        outcome.warnings.map fun warning => "  warning: " ++ warning.text
  | .error failure => ["✘ " ++ report.source, "  error: " ++ failure.message]

/-- The lines of the summary on a batch. -/
def summaryLines (report : Report) : List String :=
  report.documents.flatMap documentLines ++
    [Digit.textOfNat report.succeeded ++ " succeeded, " ++ Digit.textOfNat report.failed
      ++ " failed, " ++ Digit.textOfNat report.warningCount ++ " warning(s)"]

/-- The exit code: a document without a model is a failure, and so is a warning if warnings are
denied. -/
def exitCode (report : Report) (denyWarnings : Bool) : Nat :=
  if 0 < report.failed ∨ (denyWarnings ∧ 0 < report.warningCount) then 1 else 0

/-- The lines that list the signatures of a model under its slug. -/
def signatureLines (model : Model) : List String :=
  model.slug :: model.signatures.map fun signature => "  " ++ signature.text

/-! ## The whole program -/

/-- Lines as a text; every line ends in a line break. -/
def textOfLines (lines : List String) : String :=
  String.join (lines.map fun line => line ++ "\n")

/-- The text that shows those of some messages that a filter lets through. -/
def shown (filter : Filter) (messages : List Message) : String :=
  String.join ((messages.filter fun message => filter.shows message.level).map Message.shownText)

/-- The documents of an invocation, with the messages about loading them. -/
def load (invocation : Invocation) :
    m (List Message × Except RunFault (List (String × Json))) := do
  match ← (invocation.inputs.mapM (resolveInput (m := m))).run with
  | .error fault => return ([], .error fault)
  | .ok paths =>
      let paths := paths.flatten
      let documents ← (paths.mapM (loadFile (m := m) invocation.pointer)).run
      return ([.ofCommandLine
        ("loading " ++ Digit.textOfNat paths.length ++ " input file(s)")], documents)

/-- The output of a run that ends before its summary. -/
def failed (filter : Filter) (messages : List Message) (fault : RunFault) : Output :=
  ⟨1, "", shown filter messages ++ textOfLines ["error: " ++ fault.message]⟩

/-- The output of a run that comes to its end. -/
def completed (filter : Filter) (messages : List Message) (lines : List String) (report : Report)
    (denyWarnings : Bool) : Output :=
  ⟨exitCode report denyWarnings, textOfLines lines,
    shown filter messages ++ textOfLines (summaryLines report)⟩

/-- Carry out an invocation. -/
def run (filter : Filter) (invocation : Invocation) : m Output := do
  let (messages, loaded) ← load (m := m) invocation
  match loaded with
  | .error fault => return failed filter messages fault
  | .ok documents =>
      let report := Report.ofDocuments documents
      let entries := documents.flatMap fun document => journal document.2
      let messages := messages ++ entries.map Message.ofEvent
      let models := report.outcomes.map Outcome.model
      match invocation.task with
      | .signatures =>
          return completed filter messages (models.flatMap signatureLines) report
            invocation.denyWarnings
      | .model none =>
          return completed filter messages (models.map Model.text) report invocation.denyWarnings
      | .model (some directory) =>
          let (paths, fault) ← writeModels (m := m) directory models
          let messages := messages ++ paths.map fun path => Message.ofCommandLine ("wrote " ++ path)
          match fault with
          | some fault => return failed filter messages fault
          | none => return completed filter messages [] report invocation.denyWarnings

/-- The text that tells the name and the version of the program. -/
def versionText : String := "canon-infer 0.1.0\n"

/-- Things with their explanations as lines in two columns. -/
def explanations (rows : List (String × String)) : List String :=
  let width := (rows.map fun row => row.1.length).foldl max 0
  rows.map fun row => "  " ++ padded width row.1 ++ "  " ++ row.2

/-- An option as it is to be written, with a place for its value. -/
def optionForm (option : CommandOption) : String :=
  (match option.letter? with
    | some letter => "-" ++ letter.toString ++ ", "
    | none => "    ") ++
  "--" ++ option.name ++
  (match option.valueName? with
    | some value => " <" ++ value ++ ">"
    | none => "") ++
  if option.isRepeatable then "..." else ""

/-- Some options with their explanations. -/
def explained (options : List CommandOption) : List (String × String) :=
  options.map fun option => (optionForm option, option.description)

/-- The text that explains the program or one of its commands.  Only the sentences matter: their order
and the breaks between lines are chosen here. -/
def helpText : Option CommandName → String
  | none => textOfLines <|
      ["infer function signatures and typed test cases from canonical exercise data", "",
        "Usage: canon-infer [OPTIONS] <COMMAND>", "", "Commands:"] ++
      explanations (CommandName.all.map fun command => (command.name, command.description)) ++
      ["", "Options:"] ++
      explanations (explained [.verbose, .help] ++ [("-V, --version", "Print version")])
  | some .help => textOfLines [
      CommandName.help.description, "",
      "Usage: canon-infer help [COMMAND]"]
  | some command => textOfLines <|
      [command.description, "",
        "Usage: canon-infer " ++ command.name ++ " [OPTIONS] --input <INPUT>...", "",
        "Options:"] ++
      explanations (explained (CommandOption.ofCommand command))

/-- The whole program.  Messages are shown only if {lit}`logging` is on; no other setting of the
environment is looked at. -/
def execute (logging : Bool) (arguments : List String) : m Output := do
  match Request.ofArguments arguments with
  | .error fault => return ⟨2, "", "error: " ++ fault.message ++ "\n"⟩
  | .ok (.help command) => return ⟨0, helpText command, ""⟩
  | .ok .version => return ⟨0, versionText, ""⟩
  | .ok (.run invocation) =>
      let filter := if logging then .ofVerbosity invocation.verbosity else .nothing
      run (m := m) filter invocation

end

end CommandLine

end Casebook
