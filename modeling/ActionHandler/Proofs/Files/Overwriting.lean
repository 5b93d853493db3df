import ActionHandler.Proofs.Files.Writing
import ActionHandler.Proofs.FirstMatch

/-! # Writing one artifact after another

Artifacts with different names may have the same place, since names lead there in different ways.
Of those the last one counts, wherever it stands among the others, and all other files stay as
they are. Writing ends at the first artifact that cannot be written, with what the ones before it
have left, and writing all of them once more changes nothing.
-/

namespace ActionHandler.Files

open FileTree
open Text (RawText EncodeError)

/-- A file to write that can hold its text. -/
structure TextFile where
  name : RawText
  content : String
  deriving DecidableEq, Repr

namespace TextFile

/-- All facts about a file to write. -/
def given (file : TextFile) : GivenArtifact :=
  ⟨some file.name, some file.content⟩

/-- The path that a file has under a directory. -/
def path (directory : Path) (file : TextFile) : Path :=
  directory.join file.name

/-- The bytes of a file. -/
def bytes (file : TextFile) : List UInt8 :=
  Text.Utf8.encode file.content.toList

end TextFile

variable {start location : Location} {directory path : Path} {file : TextFile}
  {files : List TextFile} {artifact : GivenArtifact} {artifacts front : List GivenArtifact}
  {paths : List Path} {tree before middle after : FileTree start} {interruption : Interruption}

/-- Why nothing can be written of an artifact under a directory. -/
inductive Unwritable (directory : Path) (tree : FileTree start) :
    GivenArtifact → Interruption → Prop
  | unnamed {content : Option RawText} :
      Unwritable directory tree ⟨none, content⟩ (.fault (.missingKey "name"))
  | withoutContent {name : RawText} :
      Unwritable directory tree ⟨some name, none⟩ (.fault (.missingKey "content"))
  | refused {name content : RawText} {interruption : Interruption}
      (hrefuses : Refuses (directory.join name) tree interruption) :
      Unwritable directory tree ⟨some name, some content⟩ interruption

/-- That the file of an artifact has been opened, and its text cannot be encoded: an empty file is
all that has been written. -/
inductive Torn (directory : Path) (before : FileTree start) :
    GivenArtifact → Interruption → FileTree start → Prop
  | intro {name content : RawText} {error : EncodeError} {after : FileTree start}
      (hencode : content.encode = .error error)
      (hemptied : FileAction.on (writeArtifact directory ⟨some name, some ""⟩) before =
        (.ok (directory.join name), after)) :
      Torn directory before ⟨some name, some content⟩ (.fault (.unencodable error)) after

/-- An artifact lacks its name, or has it and lacks its content, or has both. -/
theorem cases_of_givenArtifact (artifact : GivenArtifact) :
    (∃ content, artifact = ⟨none, content⟩) ∨ (∃ name, artifact = ⟨some name, none⟩) ∨
      ∃ name content, artifact = ⟨some name, some content⟩ := by
  obtain ⟨name, content⟩ := artifact
  cases name with
  | none => exact .inl ⟨content, rfl⟩
  | some name =>
      cases content with
      | none => exact .inr (.inl ⟨name, rfl⟩)
      | some content => exact .inr (.inr ⟨name, content, rfl⟩)

/-- An artifact is written when it has a name and a content that can be encoded, and a file can be
where its path leads. -/
theorem writeArtifact_eq_ok_iff :
    FileAction.on (writeArtifact directory artifact) before = (.ok path, after) ↔
      ∃ file : TextFile, artifact = file.given ∧ path = file.path directory ∧
        Accepts (file.path directory) before ∧
        after = before.put ((file.path directory).target start) (.file file.bytes) := by
  constructor
  · intro hwrite
    rcases cases_of_givenArtifact artifact with ⟨content, rfl⟩ | ⟨name, rfl⟩ | ⟨name, content, rfl⟩
    · cases hwrite
    · cases hwrite
    · rw [on_writeArtifact_given, FileAction.on_bind_eq_ok_iff] at hwrite
      obtain ⟨_, middle, hwritten, hended⟩ := hwrite
      cases hended
      obtain ⟨text, rfl, haccepts, rfl⟩ := writeText_eq_ok_iff.mp hwritten
      exact ⟨⟨name, text⟩, rfl, rfl, haccepts, rfl⟩
  · rintro ⟨file, rfl, rfl, haccepts, rfl⟩
    rw [TextFile.given, on_writeArtifact_given, FileAction.on_bind_eq_ok_iff]
    exact ⟨(), _, writeText_eq_ok_iff.mpr ⟨file.content, rfl, haccepts, rfl⟩, rfl⟩

/-- An artifact is not written when nothing can be written of it, or nothing but an empty file. -/
theorem unwritable_or_torn
    (herror : FileAction.on (writeArtifact directory artifact) before =
      (.error interruption, after)) :
    after = before ∧ Unwritable directory before artifact interruption ∨
      Torn directory before artifact interruption after := by
  rcases cases_of_givenArtifact artifact with ⟨content, rfl⟩ | ⟨name, rfl⟩ | ⟨name, content, rfl⟩
  · cases herror
    exact .inl ⟨rfl, .unnamed⟩
  · cases herror
    exact .inl ⟨rfl, .withoutContent⟩
  · rw [on_writeArtifact_given, FileAction.on_bind_eq_error_iff] at herror
    rcases herror with hwritten | ⟨_, _, _, hended⟩
    · rcases writeText_eq_error_iff.mp hwritten with
        ⟨rfl, hrefuses⟩ | ⟨error, hencode, rfl, haccepts, rfl⟩
      · exact .inl ⟨rfl, .refused hrefuses⟩
      · refine .inr (.intro hencode (writeArtifact_eq_ok_iff.mpr ?_))
        exact ⟨⟨name, ""⟩, rfl, rfl, haccepts, rfl⟩
    · cases hended

/-- A tree with files put into it, one after the other. -/
def overwrite (directory : Path) (tree : FileTree start) (files : List TextFile) :
    FileTree start :=
  files.foldl
    (fun tree file => tree.put ((file.path directory).target start) (.file file.bytes)) tree

/-- The first file is put before the others. -/
theorem overwrite_cons (directory : Path) (tree : FileTree start) (file : TextFile)
    (files : List TextFile) :
    overwrite directory tree (file :: files) =
      overwrite directory (tree.put ((file.path directory).target start) (.file file.bytes))
        files :=
  rfl

/-- Where files can be written does not change when one of them is. -/
theorem forall_accepts_put_iff (haccepts : Accepts path tree) (bytes : List UInt8) :
    (∀ file ∈ files,
      Accepts (file.path directory) (tree.put (path.target start) (.file bytes))) ↔
      ∀ file ∈ files, Accepts (file.path directory) tree :=
  forall₂_congr fun _ _ => haccepts.put_iff bytes

theorem writeEach_cons_eq_ok_iff :
    FileAction.on (writeEach directory (artifact :: artifacts)) before = (.ok paths, after) ↔
      ∃ path others middle, paths = path :: others ∧
        FileAction.on (writeArtifact directory artifact) before = (.ok path, middle) ∧
        FileAction.on (writeEach directory artifacts) middle = (.ok others, after) := by
  simp only [writeEach, FileAction.on_bind_eq_ok_iff]
  constructor
  · rintro ⟨path, middle, hfirst, others, _, hrest, hended⟩
    cases hended
    exact ⟨path, others, middle, rfl, hfirst, hrest⟩
  · rintro ⟨path, others, middle, rfl, hfirst, hrest⟩
    exact ⟨path, middle, hfirst, others, after, hrest, rfl⟩

theorem writeEach_cons_eq_error_iff :
    FileAction.on (writeEach directory (artifact :: artifacts)) before =
        (.error interruption, after) ↔
      FileAction.on (writeArtifact directory artifact) before = (.error interruption, after) ∨
        ∃ path middle, FileAction.on (writeArtifact directory artifact) before =
            (.ok path, middle) ∧
          FileAction.on (writeEach directory artifacts) middle = (.error interruption, after) := by
  simp only [writeEach, FileAction.on_bind_eq_error_iff]
  constructor
  · rintro (hfirst | ⟨path, middle, hfirst, hrest | ⟨_, _, _, hended⟩⟩)
    · exact .inl hfirst
    · exact .inr ⟨path, middle, hfirst, hrest⟩
    · cases hended
  · rintro (hfirst | ⟨path, middle, hfirst, hrest⟩)
    · exact .inl hfirst
    · exact .inr ⟨path, middle, hfirst, .inl hrest⟩

/-- One more artifact is written behind those that have been written. -/
theorem writeEach_concat
    (hfront : FileAction.on (writeEach directory front) before = (.ok paths, middle))
    (hlast : FileAction.on (writeArtifact directory artifact) middle = (.ok path, after)) :
    FileAction.on (writeEach directory (front ++ [artifact])) before =
      (.ok (paths ++ [path]), after) := by
  induction front generalizing before paths with
  | nil =>
      cases hfront
      exact writeEach_cons_eq_ok_iff.mpr ⟨path, [], after, rfl, hlast, rfl⟩
  | cons first front ih =>
      obtain ⟨other, others, next, rfl, hfirst, hrest⟩ := writeEach_cons_eq_ok_iff.mp hfront
      exact writeEach_cons_eq_ok_iff.mpr ⟨other, others ++ [path], next, rfl, hfirst, ih hrest⟩

/-- All artifacts are written when each of them has a name and a content that can be encoded, and
its path leads to where a file can be at the beginning. -/
theorem writeEach_eq_ok_iff :
    FileAction.on (writeEach directory artifacts) before = (.ok paths, after) ↔
      ∃ files : List TextFile, artifacts = files.map TextFile.given ∧
        paths = files.map (·.path directory) ∧
        (∀ file ∈ files, Accepts (file.path directory) before) ∧
        after = overwrite directory before files := by
  induction artifacts generalizing before paths with
  | nil =>
      constructor
      · intro hwrite
        cases hwrite
        exact ⟨[], rfl, rfl, by simp, rfl⟩
      · rintro ⟨files, hfiles, rfl, -, rfl⟩
        obtain rfl := List.map_eq_nil_iff.mp hfiles.symm
        rfl
  | cons artifact rest ih =>
      rw [writeEach_cons_eq_ok_iff]
      simp only [writeArtifact_eq_ok_iff, ih]
      constructor
      · rintro ⟨_, _, _, rfl, ⟨file, rfl, rfl, haccepts, rfl⟩, files, rfl, rfl, hrest, rfl⟩
        have hall := (forall_accepts_put_iff haccepts file.bytes).mp hrest
        exact ⟨file :: files, rfl, rfl, List.forall_mem_cons.mpr ⟨haccepts, hall⟩, rfl⟩
      · rintro ⟨files, hfiles, rfl, hall, rfl⟩
        obtain ⟨file, files, rfl, rfl, rfl⟩ := List.map_eq_cons_iff.mp hfiles.symm
        obtain ⟨haccepts, hall⟩ := List.forall_mem_cons.mp hall
        have hrest := (forall_accepts_put_iff haccepts file.bytes).mpr hall
        exact ⟨_, _, _, rfl, ⟨file, rfl, rfl, haccepts, rfl⟩, files, rfl, rfl, hrest, rfl⟩

/-- Writing ends early at the first artifact that cannot be written, behind the ones in front of
it. -/
theorem writeEach_eq_error_iff :
    FileAction.on (writeEach directory artifacts) before = (.error interruption, after) ↔
      ∃ front artifact behind paths middle, artifacts = front ++ artifact :: behind ∧
        FileAction.on (writeEach directory front) before = (.ok paths, middle) ∧
        FileAction.on (writeArtifact directory artifact) middle =
          (.error interruption, after) := by
  induction artifacts generalizing before with
  | nil =>
      constructor
      · intro herror
        cases herror
      · rintro ⟨front, artifact, behind, _, _, hnil, -⟩
        simp at hnil
  | cons artifact rest ih =>
      rw [writeEach_cons_eq_error_iff]
      simp only [ih]
      constructor
      · rintro (hfails | ⟨path, next, hwritten, hrest⟩)
        · exact ⟨[], artifact, rest, [], before, rfl, rfl, hfails⟩
        · obtain ⟨front, other, behind, paths, middle, rfl, hfront, hfails⟩ := hrest
          have hall := writeEach_cons_eq_ok_iff.mpr ⟨path, paths, next, rfl, hwritten, hfront⟩
          exact ⟨artifact :: front, other, behind, path :: paths, middle, rfl, hall, hfails⟩
      · rintro ⟨front, other, behind, paths, middle, hartifacts, hfront, hfails⟩
        cases front with
        | nil =>
            cases hartifacts
            cases hfront
            exact .inl hfails
        | cons first front =>
            cases hartifacts
            obtain ⟨path, others, next, -, hwritten, hrest⟩ :=
              writeEach_cons_eq_ok_iff.mp hfront
            exact .inr ⟨path, next, hwritten, front, other, behind, others, middle, rfl, hrest,
              hfails⟩

section Overwrite

variable (haccepts : ∀ file ∈ files, Accepts (file.path directory) before)
include haccepts

/-- Where several artifacts are put, the last of them stands, and elsewhere what stood there
before. -/
theorem kind?_overwrite (location : Location) :
    (overwrite directory before files).kind? location =
      match files.reverse.find? fun file => (file.path directory).target start = location with
      | some file => some (.file file.bytes)
      | none => before.kind? location := by
  induction files generalizing before with
  | nil => rfl
  | cons file rest ih =>
      obtain ⟨hfile, hrest⟩ := List.forall_mem_cons.mp haccepts
      have hputs := hfile.puts file.bytes location
      rw [overwrite_cons, ih ((forall_accepts_put_iff hfile _).mpr hrest), List.reverse_cons,
        List.find?_append, hputs]
      cases rest.reverse.find? fun file => (file.path directory).target start = location with
      | some last => rfl
      | none =>
          by_cases htarget : (file.path directory).target start = location
          · simp [htarget]
          · simp [htarget, Ne.symm htarget]

/-- Files that are put where they can be written leave the directories as they are. -/
theorem overwrite_keepsDirectories :
    before.KeepsDirectories (overwrite directory before files) ∧
      (overwrite directory before files).KeepsDirectories before := by
  induction files generalizing before with
  | nil => exact ⟨fun _ hlocation => hlocation, fun _ hlocation => hlocation⟩
  | cons file rest ih =>
      obtain ⟨hfile, hrest⟩ := List.forall_mem_cons.mp haccepts
      have hputs := hfile.puts file.bytes
      obtain ⟨hkeeps, hback⟩ := ih ((forall_accepts_put_iff hfile _).mpr hrest)
      exact ⟨(hputs.keepsDirectories hfile.place).trans hkeeps,
        hback.trans hputs.keepsDirectories_back⟩

/-- A file that has been written can be written again. -/
theorem accepts_overwrite (hmem : file ∈ files) :
    Accepts (file.path directory) (overwrite directory before files) := by
  obtain ⟨hkeeps, hback⟩ := overwrite_keepsDirectories haccepts
  exact (haccepts file hmem).mono hkeeps hback

/-- The place of an artifact has the last one of those that have this place. -/
theorem exists_last_overwrite (hmem : file ∈ files) :
    ∃ last, IsLast (fun other : TextFile =>
        (other.path directory).target start = (file.path directory).target start) files last ∧
      (overwrite directory before files).kind? ((file.path directory).target start) =
        some (.file last.bytes) := by
  rw [kind?_overwrite haccepts]
  cases hlast : files.reverse.find? fun other =>
      (other.path directory).target start = (file.path directory).target start with
  | none => simpa using List.find?_eq_none.mp hlast file (List.mem_reverse.mpr hmem)
  | some last =>
      exact ⟨last, (find?_eq_some_iff_isFirst fun _ => decide_eq_true_iff).mp hlast, rfl⟩

/-- Where none of the files is put, nothing changes. -/
theorem kind?_overwrite_of_forall_ne
    (hother : ∀ file ∈ files, (file.path directory).target start ≠ location) :
    (overwrite directory before files).kind? location = before.kind? location := by
  have hnone : (files.reverse.find? fun file =>
      (file.path directory).target start = location) = none :=
    List.find?_eq_none.mpr fun file hmem => by simpa using hother file (List.mem_reverse.mp hmem)
  rw [kind?_overwrite haccepts, hnone]

end Overwrite

/-- A file that an artifact is put over later need not be put there before. -/
theorem overwrite_put {old : List UInt8}
    (hfiles : ∀ file ∈ files, ∃ bytes,
      tree.kind? ((file.path directory).target start) = some (.file bytes))
    (hold : tree.kind? location = some (.file old))
    (hmem : ∃ file ∈ files, (file.path directory).target start = location) (bytes : List UInt8) :
    overwrite directory (tree.put location (.file bytes)) files =
      overwrite directory tree files := by
  induction files generalizing tree old with
  | nil => simp at hmem
  | cons file rest ih =>
      obtain ⟨⟨here, hhere⟩, hrest⟩ := List.forall_mem_cons.mp hfiles
      rw [overwrite_cons, overwrite_cons]
      by_cases htarget : (file.path directory).target start = location
      · rw [htarget, put_put (kind?_eq_file_iff.mp hold)]
      · have hlater : ∃ file ∈ rest, (file.path directory).target start = location := by
          simpa [htarget] using hmem
        -- Putting the first artifact leaves a file wherever there was one.
        have hkept : ∀ {other : Location} {bytes : List UInt8},
            tree.kind? other = some (.file bytes) → ∃ bytes, (tree.put
              ((file.path directory).target start) (.file file.bytes)).kind? other =
                some (.file bytes) := by
          intro other bytes hother
          rw [kind?_put_of_file hhere]
          split
          next => exact ⟨_, rfl⟩
          next => exact ⟨_, hother⟩
        obtain ⟨old', hold'⟩ := hkept hold
        have hrest' := fun other hmem => (hrest other hmem).elim fun _ => hkept
        rw [put_comm (Ne.symm htarget) (kind?_eq_file_iff.mp hold) (kind?_eq_file_iff.mp hhere),
          ih hrest' hold' hlater]

/-- Artifacts that have been put into a tree are put there once more without any change. -/
theorem overwrite_overwrite (haccepts : ∀ file ∈ files, Accepts (file.path directory) before) :
    overwrite directory (overwrite directory before files) files =
      overwrite directory before files := by
  induction files generalizing before with
  | nil => rfl
  | cons file rest ih =>
      obtain ⟨hfile, hrest⟩ := List.forall_mem_cons.mp haccepts
      have hmiddle := (forall_accepts_put_iff hfile file.bytes).mpr hrest
      have hfiles : ∀ other ∈ file :: rest, ∃ bytes,
          (overwrite directory before (file :: rest)).kind? ((other.path directory).target start) =
            some (.file bytes) := by
        intro other hmem
        obtain ⟨last, -, hlast⟩ := exists_last_overwrite haccepts hmem
        exact ⟨_, hlast⟩
      obtain ⟨⟨here, hhere⟩, hothers⟩ := List.forall_mem_cons.mp hfiles
      rw [overwrite_cons] at hhere hothers
      rw [overwrite_cons, overwrite_cons]
      by_cases hlater : ∃ other ∈ rest,
          (other.path directory).target start = (file.path directory).target start
      · rw [overwrite_put hothers hhere hlater, ih hmiddle]
      · -- No other artifact has the place of the first one, so that one is still there.
        have hsame := kind?_overwrite_of_forall_ne hmiddle fun other hmem htarget =>
          hlater ⟨other, hmem, htarget⟩
        rw [(hfile.puts file.bytes).self] at hsame
        rw [put_self (kind?_eq_file_iff.mp hsame), ih hmiddle]

/-- What a tree has become by artifacts that have been written under a directory. -/
structure Overwritten (directory : Path) (files : List TextFile) (before after : FileTree start) :
    Prop where
  /-- Each path leads to a file with the last of the artifacts whose paths lead there. -/
  contents : ∀ file ∈ files, ∃ last,
    IsLast (fun other : TextFile =>
      after.locate (other.path directory) = after.locate (file.path directory)) files last ∧
    after.read (file.path directory) = .ok last.bytes
  /-- Files to which none of the paths leads are as they were, and none of them is new. -/
  others : ∀ location bytes,
    (∀ file ∈ files, after.locate (file.path directory) ≠ .ok location) →
    (after.kind? location = some (.file bytes) ↔ before.kind? location = some (.file bytes))
  directories : before.KeepsDirectories after
  /-- A directory that is new stands on the way to the directory that is written to. -/
  new_directories : ∀ location, after.kind? location = some .directory →
    before.kind? location = some .directory ∨
      before.kind? location = none ∧ ∃ components, components <+: directory.components ∧
        after.locate ⟨directory.root, components⟩ = .ok location

/-- Files that are put behind their directory leave the tree as described. -/
theorem overwritten_of_grows {middle : FileTree start} (hopens : Opens directory middle)
    (hgrows : Grows directory before middle)
    (haccepts : ∀ file ∈ files, Accepts (file.path directory) middle) :
    Overwritten directory files before (overwrite directory middle files) := by
  obtain ⟨hkeeps, hback⟩ := overwrite_keepsDirectories haccepts
  have hlocated : ∀ file ∈ files, (overwrite directory middle files).locate
      (file.path directory) = .ok ((file.path directory).target start) :=
    fun file hmem => (accepts_overwrite haccepts hmem).located
  refine ⟨?_, ?_, hgrows.keepsDirectories.trans hkeeps, ?_⟩
  · intro file hmem
    obtain ⟨last, hlast, hkind⟩ := exists_last_overwrite haccepts hmem
    refine ⟨last, hlast.congr ?_, read_eq_ok_iff.mpr ⟨hlocated file hmem, hkind⟩⟩
    intro other hother
    rw [hlocated file hmem, hlocated other hother, Except.ok.injEq]
  · intro location bytes hother
    have htarget : ∀ file ∈ files, (file.path directory).target start ≠ location := by
      rintro file hmem rfl
      exact hother file hmem (hlocated file hmem)
    rw [kind?_overwrite_of_forall_ne haccepts htarget, hgrows.kind?_eq_file_iff]
  · intro location hlocation
    have hmiddle := hback location hlocation
    rcases hgrows location with hsame | ⟨hnone, _, components, hbegins, htarget⟩
    · exact .inl (hsame ▸ hmiddle)
    · rw [htarget] at hnone ⊢
      exact .inr ⟨hnone, components, hbegins,
        locate_of_prefix (hopens.mono hkeeps).located hbegins⟩

/-- How writing artifacts under a directory ends, and the tree that it leaves. -/
inductive Stored (directory : Path) (artifacts : List GivenArtifact) (before : FileTree start) :
    Except Interruption (List Path) → FileTree start → Prop
  /-- The directory cannot be made, whatever is to be written into it. -/
  | barred {interruption : Interruption} {after : FileTree start}
      (hbarred : ∀ others, FileAction.on (writeArtifacts directory others) before =
        (.error interruption, after))
      (hgrows : Grows directory before after) :
      Stored directory artifacts before (.error interruption) after
  /-- Nothing can be written of one of the artifacts, and the tree is left as by the ones before
  it. -/
  | stopped {front behind : List GivenArtifact} {artifact : GivenArtifact} {paths : List Path}
      {interruption : Interruption} {after : FileTree start}
      (hartifacts : artifacts = front ++ artifact :: behind)
      (hfront : FileAction.on (writeArtifacts directory front) before = (.ok paths, after))
      (hunwritable : Unwritable directory after artifact interruption) :
      Stored directory artifacts before (.error interruption) after
  /-- The text of one of the artifacts cannot be encoded, and the tree is left as by the ones before
  it and an empty one in its place. -/
  | torn {front behind : List GivenArtifact} {name content : RawText} {error : EncodeError}
      {paths : List Path} {after : FileTree start}
      (hartifacts : artifacts = front ++ ⟨some name, some content⟩ :: behind)
      (hencode : content.encode = .error error)
      (hemptied : FileAction.on (writeArtifacts directory (front ++ [⟨some name, some ""⟩]))
        before = (.ok paths, after)) :
      Stored directory artifacts before (.error (.fault (.unencodable error))) after
  /-- All artifacts have been written, and may be written again without any change. -/
  | done {files : List TextFile} {after : FileTree start}
      (hartifacts : artifacts = files.map TextFile.given)
      (hoverwritten : Overwritten directory files before after)
      (hagain : FileAction.on (writeArtifacts directory artifacts) after =
        (.ok (files.map (·.path directory)), after)) :
      Stored directory artifacts before (.ok (files.map (·.path directory))) after

theorem stored_of_writeEach_error
    (hwrites : ∀ others, FileAction.on (writeArtifacts directory others) before =
      FileAction.on (writeEach directory others) middle)
    (herror : FileAction.on (writeEach directory artifacts) middle =
      (.error interruption, after)) :
    Stored directory artifacts before (.error interruption) after := by
  obtain ⟨front, artifact, behind, paths, next, hartifacts, hfront, hfails⟩ :=
    writeEach_eq_error_iff.mp herror
  rcases unwritable_or_torn hfails with ⟨rfl, hunwritable⟩ | ⟨hencode, hemptied⟩
  · exact .stopped hartifacts ((hwrites front).trans hfront) hunwritable
  · exact .torn hartifacts hencode ((hwrites _).trans (writeEach_concat hfront hemptied))

theorem stored_of_writeEach_ok (hopens : Opens directory middle)
    (hgrows : Grows directory before middle)
    (hwritten : FileAction.on (writeEach directory artifacts) middle = (.ok paths, after)) :
    Stored directory artifacts before (.ok paths) after := by
  obtain ⟨files, hartifacts, rfl, haccepts, rfl⟩ := writeEach_eq_ok_iff.mp hwritten
  have hopened := makeDirectories_of_opens (hopens.mono (overwrite_keepsDirectories haccepts).1)
  refine .done hartifacts (overwritten_of_grows hopens hgrows haccepts) ?_
  rw [on_writeArtifacts, hopened]
  exact writeEach_eq_ok_iff.mpr ⟨files, hartifacts, rfl,
    fun file hmem => accepts_overwrite haccepts hmem, (overwrite_overwrite haccepts).symm⟩

/-- Writing artifacts under a directory ends in one of these ways. -/
theorem writeArtifacts_stored (directory : Path) (artifacts : List GivenArtifact)
    (before : FileTree start) :
    Stored directory artifacts before (FileAction.on (writeArtifacts directory artifacts) before).1
      (FileAction.on (writeArtifacts directory artifacts) before).2 := by
  have hends := makeDirectories_made directory before
  cases hmade : FileAction.on (makeDirectories directory) before with
  | mk result middle =>
      rw [hmade] at hends
      cases hends with
      | @stopped _ interruption _ _ _ hgrows =>
          have hbarred : ∀ others, FileAction.on (writeArtifacts directory others) before =
              (.error interruption, middle) := by
            intro others
            rw [on_writeArtifacts, hmade]
          rw [hbarred]
          exact .barred hbarred hgrows
      | done hopens hgrows =>
          have hwrites : ∀ others, FileAction.on (writeArtifacts directory others) before =
              FileAction.on (writeEach directory others) middle := by
            intro others
            rw [on_writeArtifacts, hmade]
          rw [hwrites]
          cases hwritten : FileAction.on (writeEach directory artifacts) middle with
          | mk result after =>
              cases result with
              | error interruption => exact stored_of_writeEach_error hwrites hwritten
              | ok paths => exact stored_of_writeEach_ok hopens hgrows hwritten

-- Two names for one file: the second artifact counts.
example : FileAction.on (writeArtifacts ⟨.relative, ["out"]⟩
    [⟨some "a.js", some "1"⟩, ⟨some "sub/../a.js", some "2"⟩])
      (⟨.directory [("out", .directory [("sub", .empty)])], rfl⟩ : FileTree []) =
        (.ok [⟨.relative, ["out", "a.js"]⟩, ⟨.relative, ["out", "sub", "..", "a.js"]⟩],
          ⟨.directory [("out", .directory [("sub", .empty), ("a.js", .file [50])])], rfl⟩) := by
  rfl

end ActionHandler.Files
