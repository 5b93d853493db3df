import ActionHandler.Files.OsError

/-! # File trees

A tree of directories and files without links, seen from one of its directories, which is
the working directory. Relative paths start there and all others at the top. A path is walked
component by component: each must lead on from an existing directory, a double dot leads back
to where the parent stands, and at the top it leads nowhere else. Neither a name in a
directory nor a path as a whole may be too long; lengths are those of the encoded text.

Where a path leads is a location, a list of names from the top down, by which entries are
read and replaced.
-/

namespace ActionHandler.Files

open Text (RawText)

/-- The name of an entry in a directory. -/
structure FileName where
  bytes : List UInt8
  deriving DecidableEq, Repr

/-- The name that a component of a path stands for. -/
def FileName.ofText (text : RawText) : FileName :=
  ⟨text.bytes⟩

instance : Coe String FileName := ⟨fun text => .ofText text⟩

/-- The names from the top of a tree down to a place in it. -/
abbrev Location := List FileName

/-- A file with its bytes, or a directory with its entries. -/
inductive Entry
  | file (bytes : List UInt8)
  | directory (entries : List (FileName × Entry))

namespace Entry

/-- A directory without entries. -/
def empty : Entry := .directory []

/-- Whether an entry is a directory. -/
def isDirectory : Entry → Bool
  | .file _ => false
  | .directory _ => true

/-- The entry of a directory with a given name. -/
def child? (name : FileName) : Entry → Option Entry
  | .file _ => none
  | .directory entries => entries.lookup name

/-- The entry at a location below another one. -/
def entry? : Entry → Location → Option Entry
  | top, [] => some top
  | top, name :: rest =>
      match top.child? name with
      | none => none
      | some child => child.entry? rest

/-- Whether a location leads to a directory. -/
def isDirectoryAt (top : Entry) (location : Location) : Bool :=
  match top.entry? location with
  | none => false
  | some entry => entry.isDirectory

/-- Puts an entry under a name, in the place of the one that is there or at the end. -/
def putEntry (name : FileName) (entry : Entry) : List (FileName × Entry) → List (FileName × Entry)
  | [] => [(name, entry)]
  | (other, old) :: rest =>
      if other = name then (other, entry) :: rest
      else (other, old) :: putEntry name entry rest

/-- Puts an entry at a location. Where the way to it is not through directories, everything
stays as it is. -/
def put : Entry → Location → Entry → Entry
  | _, [], entry => entry
  | .file bytes, _ :: _, _ => .file bytes
  | .directory entries, [name], entry => .directory (putEntry name entry entries)
  | .directory entries, name :: next :: rest, entry =>
      match entries.lookup name with
      | none => .directory entries
      | some child => .directory (putEntry name (child.put (next :: rest) entry) entries)

mutual

/-- The entries below a location, each directory before what is in it; files come with their
bytes. -/
def entriesBelow (location : Location) : Entry → List (Location × Option (List UInt8))
  | .file bytes => [(location, some bytes)]
  | .directory entries => (location, none) :: entriesOf location entries

/-- The entries of a directory at a location. -/
def entriesOf (location : Location) :
    List (FileName × Entry) → List (Location × Option (List UInt8))
  | [] => []
  | (name, entry) :: rest =>
      entriesBelow (location ++ [name]) entry ++ entriesOf location rest

end

end Entry

/-- A tree of files with the location of the working directory, which is one of its
directories. -/
structure FileTree (start : Location) where
  top : Entry
  isDirectoryAt_start : top.isDirectoryAt start = true

/-- The location at which the walk along a path starts. -/
def Root.origin (start : Location) : Root → Location
  | .relative => start
  | .slash | .doubleSlash => []

namespace FileTree

variable {start : Location}

/-- A tree without entries. -/
def empty : FileTree [] := ⟨.empty, rfl⟩

/-- The entry at a location. -/
def entry? (tree : FileTree start) (location : Location) : Option Entry :=
  tree.top.entry? location

/-- Puts an entry at a location. The working directory cannot be put away. -/
def put (tree : FileTree start) (location : Location) (entry : Entry) : FileTree start :=
  if hstart : (tree.top.put location entry).isDirectoryAt start = true then
    ⟨tree.top.put location entry, hstart⟩
  else tree

/-- The greatest length in bytes of a name in a directory. -/
def nameLimit : Nat := 255

/-- The greatest length in bytes of a path. -/
def pathLimit : Nat := 4095

/-- The location that one component leads to from another, which must be a directory. A
name that is too long leads nowhere. -/
def step (tree : FileTree start) (location : Location) (component : RawText) :
    Except OsErrorKind Location :=
  match tree.entry? location with
  | none => .error .notFound
  | some (.file _) => .error .notDirectory
  | some (.directory _) =>
      if nameLimit < component.bytes.length then .error .nameTooLong
      else .ok (if component = ".." then location.dropLast else location ++ [.ofText component])

/-- The location that components lead to from another. There need not be an entry at the
end. -/
def walk (tree : FileTree start) : Location → List RawText → Except OsErrorKind Location
  | location, [] => .ok location
  | location, component :: rest =>
      match tree.step location component with
      | .error kind => .error kind
      | .ok next => tree.walk next rest

/-- The location that a path leads to. A path that is too long is not walked at all. -/
def locate (tree : FileTree start) (path : Path) : Except OsErrorKind Location :=
  if pathLimit < path.text.bytes.length then .error .nameTooLong
  else tree.walk (path.root.origin start) path.components

/-- The bytes of the file that a path leads to. -/
def read (tree : FileTree start) (path : Path) : Except OsError (List UInt8) :=
  match tree.locate path with
  | .error kind => .error ⟨kind, path⟩
  | .ok location =>
      match tree.entry? location with
      | none => .error ⟨.notFound, path⟩
      | some (.directory _) => .error ⟨.isDirectory, path⟩
      | some (.file bytes) => .ok bytes

/-- Makes the file that a path leads to hold given bytes. -/
def write (tree : FileTree start) (path : Path) (bytes : List UInt8) :
    Except OsError (FileTree start) :=
  match tree.locate path with
  | .error kind => .error ⟨kind, path⟩
  | .ok location =>
      match tree.entry? location with
      | some (.directory _) => .error ⟨.isDirectory, path⟩
      | _ => .ok (tree.put location (.file bytes))

/-- Makes a directory where a path leads, if there is no entry yet. -/
def makeDirectory (tree : FileTree start) (path : Path) : Except OsError (FileTree start) :=
  match tree.locate path with
  | .error kind => .error ⟨kind, path⟩
  | .ok location =>
      match tree.entry? location with
      | some _ => .error ⟨.exists, path⟩
      | none => .ok (tree.put location .empty)

/-- Whether a path leads to a directory. -/
def hasDirectory (tree : FileTree start) (path : Path) : Bool :=
  match tree.locate path with
  | .error _ => false
  | .ok location => tree.top.isDirectoryAt location

/-- The locations in a tree, its top included, with the bytes of those that are files. -/
def toList (tree : FileTree start) : List (Location × Option (List UInt8)) :=
  tree.top.entriesBelow []

end FileTree

end ActionHandler.Files
