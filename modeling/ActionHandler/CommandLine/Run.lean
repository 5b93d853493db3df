import ActionHandler.CommandLine.Request
import ActionHandler.CommandLine.Usage
import ActionHandler.Files.Artifact
import ActionHandler.Generation
import ActionHandler.Settings

/-! # Running the program

A run reads its command line, the operation and the schema, generates the handler, and
prints it or writes it. Nothing is written before the handler is complete. A failure or
an error of the file system is reported on the error output, behind the log; a fault
ends the run as it is, with the log already written.
-/

namespace ActionHandler.CommandLine

open Files
open Text (RawText EncodeError)

/-- How a run ends. -/
inductive Outcome
  /-- It ends by itself, with an exit status and what it printed. -/
  | finished (status : Nat) (stdout : RawText) (stderr : String)
  /-- It is ended by a fault, after what it has written on the error output. -/
  | aborted (fault : Fault) (stderr : String)
  deriving DecidableEq, Repr

/-- Whether a record is shown at a given verbosity. -/
def isShown (verbosity : Nat) (record : Record) : Bool :=
  match record.level with
  | .info => 1 ≤ verbosity
  | .debug => 2 ≤ verbosity

/-- The log of a run at a given verbosity. -/
def logText (verbosity : Nat) (records : List Record) : String :=
  Text.unlines ((records.filter (isShown verbosity)).map Record.text)

/-- The end of a run that is interrupted after a log. -/
def Outcome.ofInterruption (log : String) : Interruption → Outcome
  | .fault fault => .aborted fault log
  | .failure failure => .finished 1 "" (log ++ "error: " ++ failure.message ++ "\n")
  | .system error => .finished 1 "" (log ++ "error: " ++ error.message ++ "\n")

/-- The end of a run that comes to print something after a log. -/
def Outcome.ofPrinting (log : String) : Except EncodeError RawText → Outcome
  | .ok stdout => .finished 0 stdout log
  | .error error => .aborted (.unencodable error) log

/-- The end of a run whose command line leads to no request. -/
def Outcome.ofRefusal : Refusal → Outcome
  | .help => .finished 0 helpText ""
  | .usage error => .finished 2 "" (usageReport error.message)

/-- What a run prints about a file that it has written. -/
def writtenLine (path : Path) : List RawText :=
  ["Generated " ++ path.text, "\n"]

variable {m : Type → Type} [Monad m] [FileSystem m]

/-- The value that an option is given. A blank ends the run in a fault. -/
def Operand.demand {α : Type} (fault : Fault) : Operand α → FileAction m α
  | .blank => throw (.fault fault)
  | .value given => pure given

/-- Reads the text that an option names. -/
def loadOperand (operand : Operand Path) : FileAction m String := do
  loadText (← operand.demand .blankInput)

/-- The texts that a generation works on: the operation, if one is asked for, and the
schema. -/
def loadInputs (request : Request) : FileAction m (Option String × String) := do
  let operation ←
    match request.operation with
    | none => pure none
    | some operand => some <$> loadOperand operand
  let schema ← loadOperand request.schema
  return (operation, schema)

/-- The directory to write to. One that the request gives counts over that of the
settings, even if it is empty or blank. -/
def Request.directoryOver (request : Request) (settings : Settings) : Operand Path :=
  request.outputDirectory.getD (.value settings.outputDirectory)

/-- The endpoint variable. One that the request gives counts over that of the settings,
unless it is empty. -/
def Request.endpointOver (request : Request) (settings : Settings) : RawText :=
  Settings.nonEmptyOr settings.endpointVariable request.endpointVariable

/-- Writes artifacts under the directory that an option names. -/
def writeUnder (operand : Operand Path) (artifacts : List (Artifact RawText)) :
    FileAction m (List Path) := do
  writeArtifacts (← operand.demand .blankDirectory) (artifacts.map (·.given))

/-- Prints artifacts or writes them, after a log. -/
def deliver (request : Request) (settings : Settings) (console : Console) (log : String)
    (artifacts : List (Artifact RawText)) : m Outcome := do
  if request.toStdout then
    return .ofPrinting log (console.print (artifacts.map (·.content)))
  else
    match ← (writeUnder (request.directoryOver settings) artifacts).run with
    | .error interruption => return .ofInterruption log interruption
    | .ok paths => return .ofPrinting log (console.print (paths.flatMap writtenLine))

/-- Does what is asked for. -/
def fulfil (request : Request) (settings : Settings) (console : Console) : m Outcome := do
  match ← (loadInputs request).run with
  | .error interruption => return .ofInterruption "" interruption
  | .ok (operation, schema) =>
      let generation :=
        generate request.action schema operation (request.endpointOver settings)
      let log := logText request.verbosity generation.records
      match generation.result with
      | .error interruption => return .ofInterruption log interruption
      | .ok artifacts => deliver request settings console log artifacts

/-- Runs the program. -/
def run (texts : List RawText) (environment : Environment) : m Outcome :=
  match Request.ofTexts texts with
  | .error refusal => return .ofRefusal refusal
  | .ok request => fulfil request (.ofEnvironment environment) environment.console

end ActionHandler.CommandLine
