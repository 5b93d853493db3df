import ActionHandler.Failure
import ActionHandler.Files.OsError
import ActionHandler.Text.Utf8

/-! # What can end a run early

A run may end in a failure or in an error of the file system, which are reported, or
in a fault, which no one has provided for and which ends the program as it is.
-/

namespace ActionHandler

/-- Something that no part of the program answers for. -/
inductive Fault
  /-- The arguments of an action were asked of a field that has none to declare. -/
  | argumentsOfInputField
  /-- A fact was asked for that was not given. -/
  | missingKey (key : String)
  /-- A template has a hole for which there is no text. -/
  | undefinedVariable (name : String)
  /-- A file does not hold text. -/
  | undecodable (error : Text.Utf8.DecodeError)
  /-- A text has surrogates where they cannot be encoded. -/
  | unencodable (error : Text.EncodeError)
  /-- A path has a NUL in it. -/
  | nulInPath
  /-- A file to read was left blank. -/
  | blankInput
  /-- A directory to write to was left blank. -/
  | blankDirectory
  deriving DecidableEq, Repr

namespace Fault

/-- The place of an undecodable sequence: one byte with its value, or several. -/
def place (error : Text.Utf8.DecodeError) : String :=
  if error.length = 1 then
    "byte 0x" ++ String.ofList (Text.Quoted.hexDigits 2 error.lead.toNat) ++ " in position " ++
      toString error.position
  else
    "bytes in position " ++ toString error.position ++ "-" ++
      toString (error.position + error.length - 1)

/-- The surrogates that cannot be encoded: one with its code point, or several. -/
def surrogates (error : Text.EncodeError) : String :=
  if error.length = 1 then
    "character '" ++ String.ofList (Text.Quoted.escapeSurrogate error.first) ++ "' in position " ++
      toString error.position
  else
    "characters in position " ++ toString error.position ++ "-" ++
      toString (error.position + error.length - 1)

/-- The words for a fault. -/
def message : Fault → String
  | .argumentsOfInputField => "'InputValueDefinitionNode' object has no attribute 'arguments'"
  | .missingKey key => Text.Quoted.quote key
  | .undefinedVariable name => Text.Quoted.quote name ++ " is undefined"
  | .undecodable error =>
      "'utf-8' codec can't decode " ++ place error ++ ": " ++ error.flaw.text
  | .unencodable error =>
      "'utf-8' codec can't encode " ++ surrogates error ++ ": surrogates not allowed"
  | .nulInPath => "embedded null byte"
  | .blankInput => "expected str, bytes or os.PathLike object, not list"
  | .blankDirectory => "'list' object has no attribute 'mkdir'"

end Fault

/-- What ended a run early. -/
inductive Interruption
  | failure (cause : Failure)
  | system (cause : Files.OsError)
  | fault (cause : Fault)
  deriving DecidableEq, Repr

namespace Interruption

/-- The words for an interruption. -/
def message : Interruption → String
  | .failure cause => cause.message
  | .system cause => cause.message
  | .fault cause => cause.message

end Interruption

end ActionHandler
