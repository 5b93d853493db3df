import ActionHandler.Proofs.Files.Tree
import Mathlib.Data.List.Basic

/-! # What stands where

A tree looks like a function from locations to what stands there: nothing, a file with its
bytes, or a directory. The order in which a directory lists its entries cannot be seen.
Putting a file or an empty directory changes this function at one location, and requests to a
tree see nothing else of it.
-/

namespace ActionHandler.Files

open Text (RawText)

/-- What can stand at a location. -/
inductive Kind
  | file (bytes : List UInt8)
  | directory
  deriving DecidableEq, Repr

namespace Entry

variable {top entry : Entry} {location : Location} {name : FileName} {bytes : List UInt8}

/-- What an entry is when one does not look inside of a directory. -/
def kind : Entry → Kind
  | .file bytes => .file bytes
  | .directory _ => .directory

/-- What stands at a location below an entry. -/
def kind? (top : Entry) (location : Location) : Option Kind :=
  (top.entry? location).map kind

theorem kind?_eq_none_iff : top.kind? location = none ↔ top.entry? location = none :=
  Option.map_eq_none_iff

theorem kind?_eq_file_iff :
    top.kind? location = some (.file bytes) ↔ top.entry? location = some (.file bytes) := by
  unfold kind?
  cases top.entry? location with
  | none => simp
  | some entry => cases entry <;> simp [kind]

theorem kind?_eq_directory_iff :
    top.kind? location = some .directory ↔
      ∃ entries, top.entry? location = some (.directory entries) := by
  unfold kind?
  cases top.entry? location with
  | none => simp
  | some entry => cases entry <;> simp [kind]

/-- What is behind a location is looked for in the entry at the location. -/
theorem kind?_append (top : Entry) (location rest : Location) :
    top.kind? (location ++ rest) = (top.entry? location).bind (·.kind? rest) := by
  rw [kind?, entry?_append, Option.bind_eq_bind, Option.map_bind]
  rfl

/-- Nothing stands below a location at which there is no directory. -/
theorem kind?_below (hlocation : top.kind? location ≠ some .directory) {rest : Location}
    (hrest : rest ≠ []) : top.kind? (location ++ rest) = none := by
  rw [kind?_append]
  cases hentry : top.entry? location with
  | none => rfl
  | some entry =>
      cases entry with
      | directory entries => exact absurd (kind?_eq_directory_iff.mpr ⟨_, hentry⟩) hlocation
      | file bytes =>
          obtain ⟨first, others, rfl⟩ := List.exists_cons_of_ne_nil hrest
          rfl

/-- All that is above something is a directory. -/
theorem directory_above {rest : Location} (hrest : rest ≠ [])
    (hentry : top.kind? (location ++ rest) ≠ none) : top.kind? location = some .directory := by
  by_cases hlocation : top.kind? location = some .directory
  · exact hlocation
  · exact absurd (kind?_below hlocation hrest) hentry

@[simp] theorem kind?_nil (top : Entry) : top.kind? [] = some top.kind := by
  simp [kind?]

theorem kind?_directory_cons (entries : List (FileName × Entry)) (name : FileName)
    (rest : Location) :
    kind? (directory entries) (name :: rest) = (entries.lookup name).bind (·.kind? rest) := by
  rw [kind?, entry?_directory_cons, Option.bind_eq_bind, Option.map_bind]
  rfl

/-- A file or an empty directory that is put into a directory, where no other directory is,
changes what stands there and nothing else. -/
theorem kind?_put (hleaf : ∀ rest, rest ≠ [] → entry.kind? rest = none)
    (hparent : top.kind? location = some .directory)
    (hplace : top.kind? (location ++ [name]) ≠ some .directory) (other : Location) :
    (top.put (location ++ [name]) entry).kind? other =
      if other = location ++ [name] then some entry.kind else top.kind? other := by
  induction location generalizing top other with
  | nil =>
      cases top with
      | file bytes => simp [kind] at hparent
      | directory entries =>
          cases other with
          | nil => simp [put, kind]
          | cons first rest =>
              have hput : (directory entries).put [name] entry =
                  directory (putEntry name entry entries) := rfl
              rw [List.nil_append, hput, kind?_directory_cons, lookup_putEntry,
                kind?_directory_cons]
              by_cases hfirst : first = name
              · subst hfirst
                rw [if_pos rfl, Option.bind_some]
                by_cases hrest : rest = []
                · subst hrest
                  simp
                -- Below the new entry there is nothing, as there was below the old one.
                · have hbelow := kind?_below hplace hrest
                  rw [List.nil_append, List.singleton_append, kind?_directory_cons] at hbelow
                  rw [hleaf rest hrest, hbelow, if_neg (by simp [hrest])]
              · rw [if_neg hfirst, if_neg (by simp [hfirst])]
  | cons first location ih =>
      cases top with
      | file bytes => simp [kind?, entry?, child?] at hparent
      | directory entries =>
          rw [kind?_directory_cons] at hparent
          obtain ⟨child, hchild, hdirectory⟩ := Option.bind_eq_some_iff.mp hparent
          have hchildPlace : child.kind? (location ++ [name]) ≠ some .directory := by
            rwa [List.cons_append, kind?_directory_cons, hchild] at hplace
          rw [List.cons_append, put_cons_of_ne_nil (by simp), hchild]
          cases other with
          | nil => simp [kind]
          | cons next rest =>
              rw [kind?_directory_cons, lookup_putEntry, kind?_directory_cons]
              by_cases hnext : next = first
              · subst hnext
                rw [if_pos rfl, Option.bind_some, hchild, Option.bind_some,
                  ih hdirectory hchildPlace]
                simp
              · rw [if_neg hnext, if_neg (by simp [hnext])]

/-- There is nothing below a file. -/
theorem kind?_file_of_ne_nil (bytes : List UInt8) (rest : Location) (hrest : rest ≠ []) :
    (Entry.file bytes).kind? rest = none := by
  obtain ⟨first, others, rfl⟩ := List.exists_cons_of_ne_nil hrest
  rfl

/-- There is nothing below an empty directory. -/
theorem kind?_empty_of_ne_nil (rest : Location) (hrest : rest ≠ []) :
    empty.kind? rest = none := by
  obtain ⟨first, others, rfl⟩ := List.exists_cons_of_ne_nil hrest
  rfl

/-- What is put in the place of a whole tree that is a file is all that stands there. -/
theorem kind?_put_nil (hleaf : ∀ rest, rest ≠ [] → entry.kind? rest = none)
    (hplace : top.kind? [] ≠ some .directory) (other : Location) :
    (top.put [] entry).kind? other =
      if other = [] then some entry.kind else top.kind? other := by
  have hput : top.put [] entry = entry := by rw [put]
  rw [hput]
  by_cases hother : other = []
  · rw [if_pos hother, hother, kind?_nil]
  · have hbelow := kind?_below hplace hother
    rw [List.nil_append] at hbelow
    rw [if_neg hother, hleaf other hother, hbelow]

/-- What is put in the place of something that is no directory changes what stands there and
nothing else. -/
theorem kind?_put_of_ne_directory (hleaf : ∀ rest, rest ≠ [] → entry.kind? rest = none)
    (hplace : top.kind? location ≠ some .directory) (hentry : top.kind? location ≠ none)
    (other : Location) :
    (top.put location entry).kind? other =
      if other = location then some entry.kind else top.kind? other := by
  rcases List.eq_nil_or_concat' location with rfl | ⟨above, name, rfl⟩
  · exact kind?_put_nil hleaf hplace other
  · exact kind?_put hleaf (directory_above (List.cons_ne_nil name []) hentry) hplace other

end Entry

namespace FileTree

variable {start location : Location} {tree : FileTree start} {bytes : List UInt8}

/-- What stands at a location of a tree. -/
def kind? (tree : FileTree start) (location : Location) : Option Kind :=
  tree.top.kind? location

theorem kind?_eq_none_iff : tree.kind? location = none ↔ tree.entry? location = none :=
  Entry.kind?_eq_none_iff

theorem kind?_eq_file_iff :
    tree.kind? location = some (.file bytes) ↔ tree.entry? location = some (.file bytes) :=
  Entry.kind?_eq_file_iff

theorem kind?_eq_directory_iff :
    tree.kind? location = some .directory ↔
      ∃ entries, tree.entry? location = some (.directory entries) :=
  Entry.kind?_eq_directory_iff

/-- The check that a tree makes of its start location is one of kinds. -/
theorem isDirectoryAt_eq_true_iff :
    tree.top.isDirectoryAt location = true ↔ tree.kind? location = some .directory :=
  Entry.isDirectoryAt_eq_true_iff.trans kind?_eq_directory_iff.symm

/-- The start location of a tree is a directory of it. -/
theorem kind?_start (tree : FileTree start) : tree.kind? start = some .directory :=
  isDirectoryAt_eq_true_iff.mp tree.isDirectoryAt_start

/-- All that is above something is a directory. -/
theorem directory_above {rest : Location} (hrest : rest ≠ [])
    (hentry : tree.kind? (location ++ rest) ≠ none) : tree.kind? location = some .directory :=
  Entry.directory_above hrest hentry

/-- The top of a tree is a directory, since the working directory is one and is not above it. -/
theorem kind?_nil (tree : FileTree start) : tree.kind? [] = some .directory := by
  have hstart := tree.kind?_start
  cases start with
  | nil => exact hstart
  | cons name rest =>
      exact directory_above (List.cons_ne_nil name rest) (by simp [hstart])

/-- A path starts at a directory. -/
theorem kind?_origin (tree : FileTree start) (root : Root) :
    tree.kind? (root.origin start) = some .directory := by
  cases root with
  | relative => exact tree.kind?_start
  | slash | doubleSlash => exact tree.kind?_nil

/-- What is put where no directory is, is put among the entries of a tree. -/
theorem kind?_put_eq (hplace : tree.kind? location ≠ some .directory) (entry : Entry)
    (other : Location) : (tree.put location entry).kind? other =
      (tree.top.put location entry).kind? other := by
  have hplace := mt isDirectoryAt_eq_true_iff.mp hplace
  rw [kind?, top_put (Bool.eq_false_iff.mpr hplace)]

/-- A file in the place of another one changes nothing else. -/
theorem kind?_put_of_file {old : List UInt8} (hfile : tree.kind? location = some (.file old))
    (bytes : List UInt8) (other : Location) :
    (tree.put location (.file bytes)).kind? other =
      if other = location then some (.file bytes) else tree.kind? other := by
  have hplace : tree.kind? location ≠ some .directory := by simp [hfile]
  rw [kind?_put_eq hplace]
  refine Entry.kind?_put_of_ne_directory (Entry.kind?_file_of_ne_nil bytes) hplace ?_ other
  exact fun hnone => by cases hnone.symm.trans hfile

section Replacing

variable {location' : Location} {bytes' : List UInt8}

/-- Of two files that are put into the same place, the second one counts. -/
theorem put_put (hfile : tree.entry? location = some (.file bytes)) (first second : List UInt8) :
    (tree.put location (.file first)).put location (.file second) =
      tree.put location (.file second) := by
  have hplace := isDirectoryAt_of_file hfile
  have hput := kind?_put_of_file (kind?_eq_file_iff.mpr hfile) first location
  rw [if_pos rfl, kind?_eq_file_iff] at hput
  apply ext_top
  rw [top_put (isDirectoryAt_of_file hput), top_put hplace, top_put hplace]
  exact Entry.put_put hfile _ _

/-- A file that is put where it is already changes nothing at all. -/
theorem put_self (hfile : tree.entry? location = some (.file bytes)) :
    tree.put location (.file bytes) = tree :=
  ext_top ((top_put (isDirectoryAt_of_file hfile) _).trans (Entry.put_self hfile))

/-- Two files can be replaced in either order. -/
theorem put_comm (hlocation : location ≠ location')
    (hfile : tree.entry? location = some (.file bytes))
    (hfile' : tree.entry? location' = some (.file bytes')) (first second : List UInt8) :
    (tree.put location (.file first)).put location' (.file second) =
      (tree.put location' (.file second)).put location (.file first) := by
  have hput := kind?_put_of_file (kind?_eq_file_iff.mpr hfile) first location'
  have hput' := kind?_put_of_file (kind?_eq_file_iff.mpr hfile') second location
  rw [if_neg hlocation.symm, kind?_eq_file_iff.mpr hfile', kind?_eq_file_iff] at hput
  rw [if_neg hlocation, kind?_eq_file_iff.mpr hfile, kind?_eq_file_iff] at hput'
  apply ext_top
  rw [top_put (isDirectoryAt_of_file hput), top_put (isDirectoryAt_of_file hput'),
    top_put (isDirectoryAt_of_file hfile), top_put (isDirectoryAt_of_file hfile')]
  exact Entry.put_comm hlocation hfile hfile' _ _

end Replacing

/-- All that a step sees of a tree is what stands at its beginning. -/
theorem step_eq_of_kind? (tree : FileTree start) (location : Location) (component : RawText) :
    tree.step location component =
      match tree.kind? location with
      | none => .error .notFound
      | some (.file _) => .error .notDirectory
      | some .directory =>
          if nameLimit < component.bytes.length then .error .nameTooLong
          else .ok (if component = ".." then location.dropLast
            else location ++ [.ofText component]) := by
  unfold step kind? Entry.kind? entry?
  cases tree.top.entry? location with
  | none => rfl
  | some entry => cases entry <;> rfl

/-- What is read depends on where the path leads and on what kind of entry is there. -/
theorem read_eq_of_kind? (tree : FileTree start) (path : Path) :
    tree.read path =
      match tree.locate path with
      | .error kind => .error ⟨kind, path⟩
      | .ok location =>
          match tree.kind? location with
          | none => .error ⟨.notFound, path⟩
          | some .directory => .error ⟨.isDirectory, path⟩
          | some (.file bytes) => .ok bytes := by
  unfold FileTree.read kind? Entry.kind? entry?
  cases tree.locate path with
  | error kind => rfl
  | ok location =>
      cases hentry : tree.top.entry? location with
      | none => simp [hentry]
      | some entry => cases entry <;> simp [hentry, Entry.kind]

/-- Whether a file can be written depends on where the path leads and on what kind of entry is
there. -/
theorem write_eq_of_kind? (tree : FileTree start) (path : Path) (bytes : List UInt8) :
    tree.write path bytes =
      match tree.locate path with
      | .error kind => .error ⟨kind, path⟩
      | .ok location =>
          if tree.kind? location = some .directory then .error ⟨.isDirectory, path⟩
          else .ok (tree.put location (.file bytes)) := by
  unfold write kind? Entry.kind? entry?
  cases tree.locate path with
  | error kind => rfl
  | ok location =>
      cases hentry : tree.top.entry? location with
      | none => simp [hentry]
      | some entry => cases entry <;> simp [hentry, Entry.kind]

/-- Whether a directory can be made depends on where the path leads and on whether there is
anything. -/
theorem makeDirectory_eq_of_kind? (tree : FileTree start) (path : Path) :
    tree.makeDirectory path =
      match tree.locate path with
      | .error kind => .error ⟨kind, path⟩
      | .ok location =>
          if tree.kind? location = none then .ok (tree.put location .empty)
          else .error ⟨.exists, path⟩ := by
  unfold makeDirectory kind? Entry.kind? entry?
  cases tree.locate path with
  | error kind => rfl
  | ok location => cases hentry : tree.top.entry? location <;> simp [hentry]

/-- Whether there is a directory depends on where the path leads and on what kind of entry is
there. -/
theorem hasDirectory_eq_of_kind? (tree : FileTree start) (path : Path) :
    tree.hasDirectory path =
      match tree.locate path with
      | .error _ => false
      | .ok location => tree.kind? location == some .directory := by
  unfold hasDirectory
  cases tree.locate path with
  | error kind => rfl
  | ok location =>
      dsimp only
      rw [Bool.eq_iff_iff, beq_iff_eq]
      exact isDirectoryAt_eq_true_iff

/-- That two trees cannot be told apart: the same stands at every location. -/
def Alike (first second : FileTree start) : Prop :=
  ∀ location, first.kind? location = second.kind? location

end FileTree

end ActionHandler.Files
