import ActionHandler.CommandLine.Run

/-! # The program -/

namespace ActionHandler.Program

open Files

/-- The cause of an error that the operating system reports. -/
def errorKind : IO.Error → OsErrorKind
  | .noFileOrDirectory .. => .notFound
  | .noSuchThing .. => .notFound
  | .alreadyExists .. => .exists
  | .inappropriateType _ code details =>
      if code = 20 then .notDirectory
      else if code = 21 then .isDirectory
      else .other code.toNat details
  | .invalidArgument _ code details =>
      if code = 36 then .nameTooLong else .other code.toNat details
  | .permissionDenied _ code details => .other code.toNat details
  | other => .other 5 (toString other)

/-- Why no request can be made about a path that is no string. -/
def notAString : OsErrorKind :=
  .other 84 "Invalid or incomplete multibyte or wide character"

/-- The answer to a request about a path. -/
def request {α : Type} (path : Path) (action : String → IO α) : IO (Except OsError α) := do
  match path.text.text? with
  | none => return .error ⟨notAString, path⟩
  | some text =>
      match ← (action text).toBaseIO with
      | .ok value => return .ok value
      | .error error => return .error ⟨errorKind error, path⟩

/-- Whether a path leads to a directory: only then can the dot in it be opened. -/
def isDirectory (path : Path) : IO Bool := do
  let opened ← request path fun text => IO.FS.Handle.mk (text ++ "/.") .read
  return opened.isOk

instance : FileSystem IO where
  read path := request path fun text => do
    let handle ← IO.FS.Handle.mk text .read
    return (← handle.readBinToEnd).toList
  write path bytes := request path fun text =>
    IO.FS.writeBinFile text (ByteArray.mk bytes.toArray)
  makeDirectory path := request path fun text => IO.FS.createDir text
  hasDirectory := isDirectory

/-- The environment of the program. Its standard output takes strings only. -/
def readEnvironment : IO Environment := do
  let keys := [Settings.outputDirectoryKey, Settings.endpointVariableKey]
  let values ← keys.mapM fun key => return (key, ← IO.getEnv key)
  let given := values.filterMap fun (key, value?) => value?.map fun value : String =>
    (key, (value : Text.RawText))
  return { values := given, console := .strict }

end ActionHandler.Program

open ActionHandler in
/-- Runs the program on its arguments. -/
def main (arguments : List String) : IO UInt32 := do
  let environment ← Program.readEnvironment
  let words := arguments.map fun argument : String => (argument : Text.RawText)
  match ← (CommandLine.run words environment : IO CommandLine.Outcome) with
  | .finished status stdout stderr =>
      (← IO.getStderr).putStr stderr
      (← IO.getStdout).write (ByteArray.mk stdout.bytes.toArray)
      return UInt32.ofNat status
  | .aborted fault stderr =>
      (← IO.getStderr).putStr (stderr ++ fault.message ++ "\n")
      return 1
