import ActionHandler.Files.FileTree
import ActionHandler.Interruption
import ActionHandler.Text.LineEnding

/-! # Working with files

What the program asks of a file system, and the three things that it does with one:
reading a text, making a directory together with the missing ones above it, and writing
a text. A file tree answers the requests, and so can any other file system. No request
is made about a path that cannot be encoded or has a NUL in it.

A file is opened for writing before its text is encoded. If the text cannot be encoded,
an empty file is left.
-/

namespace ActionHandler.Files

open Text (RawText Surrogate)

/-- The requests to a file system. -/
class FileSystem (m : Type → Type) where
  /-- Reads the bytes of a file. -/
  read : Path → m (Except OsError (List UInt8))
  /-- Makes a file hold given bytes. -/
  write : Path → List UInt8 → m (Except OsError Unit)
  /-- Makes one directory. -/
  makeDirectory : Path → m (Except OsError Unit)
  /-- Whether a path leads to a directory. -/
  hasDirectory : Path → m Bool

namespace FileTree

variable {start : Location}

/-- Goes on with a changed tree, or fails with the tree as it was. -/
def update (change : FileTree start → Except OsError (FileTree start)) :
    StateM (FileTree start) (Except OsError Unit) := do
  match change (← get) with
  | .error error => return .error error
  | .ok tree =>
      set tree
      return .ok ()

/-- A file tree answers requests from its own entries. -/
instance : FileSystem (StateM (FileTree start)) where
  read path := return (← get).read path
  write path bytes := update (·.write path bytes)
  makeDirectory path := update (·.makeDirectory path)
  hasDirectory path := return (← get).hasDirectory path

end FileTree

/-- Steps that work with files and may end early. -/
abbrev FileAction (m : Type → Type) := ExceptT Interruption m

/-- What keeps any request from being made about a path. A surrogate is allowed in a path if
it stands for a byte. -/
def Path.fault? (path : Path) : Option Fault :=
  match path.text.encodeError? (·.byte?.isSome) with
  | some error => some (.unencodable error)
  | none => if .char '\x00' ∈ path.text then some .nulInPath else none

variable {m : Type → Type} [Monad m]

/-- Ends a step early if a request failed. -/
def demand {α : Type} (answer : m (Except OsError α)) : FileAction m α :=
  ExceptT.mk do
    match ← answer with
    | .error error => return .error (.system error)
    | .ok value => return .ok value

/-- Ends a step early if nothing can be asked about a path. -/
def requireNoFault (path : Path) : FileAction m Unit :=
  match path.fault? with
  | some fault => throw (.fault fault)
  | none => pure ()

/-- The text that the bytes of a file stand for, with line endings unified. -/
def decodeText (bytes : List UInt8) : Except Interruption String :=
  match Text.Utf8.decode bytes with
  | .error error => .error (.fault (.undecodable error))
  | .ok text => .ok (String.ofList (Text.unifyLineEndings text))

variable [FileSystem m]

/-- Reads a text. -/
def loadText (path : Path) : FileAction m String := do
  requireNoFault path
  let bytes ← demand (FileSystem.read path)
  ExceptT.mk (pure (decodeText bytes))

/-- Writes a text. -/
def writeText (path : Path) (text : RawText) : FileAction m Unit := do
  requireNoFault path
  match text.encode with
  | .ok bytes => demand (FileSystem.write path bytes)
  | .error error =>
      demand (FileSystem.write path [])
      throw (.fault (.unencodable error))

/-- Attempts to make one directory, which may be there already. If it cannot be made for
want of a directory above it, the answer is the error. -/
def attemptDirectory (path : Path) : FileAction m (Option OsError) := do
  requireNoFault path
  ExceptT.mk do
    match ← FileSystem.makeDirectory path with
    | .ok () => return .ok none
    | .error error =>
        if error.kind = .notFound then return .ok (some error)
        else if ← FileSystem.hasDirectory path then return .ok none
        else return .error (.system error)

/-- Makes one directory, unless it is there already. -/
def requireDirectory (path : Path) : FileAction m Unit := do
  match ← attemptDirectory path with
  | none => pure ()
  | some error => throw (.system error)

/-- Makes the directory at the end of the first `count` components of a path, and those
above it that are missing. -/
def makeDirectoriesTo (path : Path) : Nat → FileAction m Unit
  | 0 => requireDirectory ⟨path.root, []⟩
  | count + 1 => do
      let directory : Path := ⟨path.root, path.components.take (count + 1)⟩
      match ← attemptDirectory directory with
      | none => pure ()
      | some _ =>
          makeDirectoriesTo path count
          requireDirectory directory

/-- Makes a directory and those above it that are missing. -/
def makeDirectories (path : Path) : FileAction m Unit :=
  makeDirectoriesTo path path.components.length

end ActionHandler.Files
