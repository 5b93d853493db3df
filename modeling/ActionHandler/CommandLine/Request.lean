import ActionHandler.CommandLine.Word
import ActionHandler.Files.Path

/-! # Requests

What a command line asks for. Its words are taken from left to right; a request for help
ends the reading as soon as it is reached, and so does an error.

The mark behind which everything is a value is never a value itself. An option that has
it attached is left blank: it has been given, but nothing is known of its value.
-/

namespace ActionHandler.CommandLine

open Text (RawText)

/-- What an option is given: a value, or a blank. -/
inductive Operand (α : Type)
  | blank
  | value (given : α)
  deriving DecidableEq, Repr

namespace Operand

/-- What an option is given by a text. -/
def ofText (text : RawText) : Operand RawText :=
  if text = Word.separatorText then .blank else .value text

/-- The value that is given. -/
def value? {α : Type} : Operand α → Option α
  | .blank => none
  | .value given => some given

/-- Reads what is given as a path. -/
def path : Operand RawText → Operand Files.Path
  | .blank => .blank
  | .value given => .value (.ofText given)

end Operand

/-- What the program is asked to do. -/
structure Request where
  action : RawText
  schema : Operand Files.Path
  operation : Option (Operand Files.Path)
  outputDirectory : Option (Operand Files.Path)
  endpointVariable : Option RawText
  toStdout : Bool
  verbosity : Nat
  deriving DecidableEq, Repr

/-- Why a command line leads to no request. -/
inductive Refusal
  | help
  | usage (error : UsageError)
  deriving DecidableEq, Repr

/-- What has been read of a request, and the words that were not needed. -/
structure Draft where
  action : Option RawText
  schema : Option (Operand Files.Path)
  operation : Option (Operand Files.Path)
  outputDirectory : Option (Operand Files.Path)
  endpointVariable : Option RawText
  toStdout : Bool
  verbosity : Nat
  surplus : List RawText
  deriving DecidableEq, Repr

namespace Draft

/-- Nothing has been read. -/
def empty : Draft := ⟨none, none, none, none, none, false, 0, []⟩

/-- Notes a word that is not needed. -/
def addSurplus (draft : Draft) (word : RawText) : Draft :=
  { draft with surplus := draft.surplus ++ [word] }

/-- Notes a value. The first one is the action. -/
def addValue (draft : Draft) (text : RawText) : Draft :=
  match draft.action with
  | none => { draft with action := some text }
  | some _ => draft.addSurplus text

/-- Notes the mark behind which everything is a value. It is not needed once there is an
action. -/
def addSeparator (draft : Draft) : Draft :=
  match draft.action with
  | none => draft
  | some _ => draft.addSurplus Word.separatorText

/-- Notes what an option is given. The last time counts; an endpoint variable that is left
blank then counts as none. -/
def set (draft : Draft) (operand : Operand RawText) : Setting → Draft
  | .schema => { draft with schema := some operand.path }
  | .operation => { draft with operation := some operand.path }
  | .outputDirectory => { draft with outputDirectory := some operand.path }
  | .endpointVariable => { draft with endpointVariable := operand.value? }

/-- Notes options without values. -/
def switchOn (draft : Draft) : List Switch → Except Refusal Draft
  | [] => .ok draft
  | .help :: _ => .error .help
  | .stdout :: rest => { draft with toStdout := true }.switchOn rest
  | .verbose :: rest => { draft with verbosity := draft.verbosity + 1 }.switchOn rest

/-- Takes words from left to right. The mark behind which everything is a value belongs
to the action if it stands right behind it. -/
def take (draft : Draft) : List Word → Except Refusal Draft
  | [] => .ok draft
  | .value text :: .separator :: rest =>
      match draft.action with
      | none => (draft.addValue text).take rest
      | some _ => (draft.addValue text).addSeparator.take rest
  | .value text :: rest => (draft.addValue text).take rest
  | .separator :: rest => draft.addSeparator.take rest
  | .setting setting (some attached) :: rest =>
      (draft.set (.ofText attached) setting).take rest
  | .setting setting none :: .value text :: rest =>
      (draft.set (.ofText text) setting).take rest
  | .setting setting none :: _ => .error (.usage (.valueExpected setting))
  | .switches switches :: rest =>
      match draft.switchOn switches with
      | .error refusal => .error refusal
      | .ok next => next.take rest
  | .faulty error :: _ => .error (.usage error)
  | .unknown text :: rest => (draft.addSurplus text).take rest

/-- The names of the arguments that must be given and are not. -/
def missing (draft : Draft) : List String :=
  (if draft.action.isNone then ["action"] else []) ++
    (if draft.schema.isNone then [(Flag.setting .schema).title] else [])

/-- The request that a draft amounts to. What is missing is reported before what is not
needed. -/
def finish (draft : Draft) : Except Refusal Request :=
  match draft.action, draft.schema with
  | some action, some schema =>
      match draft.surplus with
      | [] => .ok {
          action
          schema
          operation := draft.operation
          outputDirectory := draft.outputDirectory
          endpointVariable := draft.endpointVariable
          toStdout := draft.toStdout
          verbosity := draft.verbosity }
      | surplus => .error (.usage (.unrecognized surplus))
  | _, _ => .error (.usage (.missing draft.missing))

end Draft

/-- Reads a command line. -/
def Request.ofTexts (texts : List RawText) : Except Refusal Request :=
  match Word.ofTexts texts with
  | .error error => .error (.usage error)
  | .ok words =>
      match Draft.empty.take words with
      | .error refusal => .error refusal
      | .ok draft => draft.finish

end ActionHandler.CommandLine
