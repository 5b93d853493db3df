import ActionHandler.Files.Artifact
import ActionHandler.Proofs.Files.Writing
import ActionHandler.Proofs.Text.LineSpelling
import ActionHandler.Proofs.Text.Utf8

/-! # Trees that read alike

Two trees read alike if the same directories and files are in them, and the files read the same as
texts. What a step with files sees of a tree is where its directories and files are and how they
read, so it ends the same way on both trees. It also makes the same changes to both: afterwards the
trees are the same wherever they are not as they were before. In particular, how the lines of
texts end makes no difference to any step.
-/

namespace ActionHandler.Files

open Text (RawText)

namespace FileTree

variable {start location : Location}
  {first second tree before before' after after' : FileTree start} {path : Path}
  {component : RawText}

/-- That two trees have the same directories and files, and that files with different bytes read
the same as texts. -/
def ReadsAs (first second : FileTree start) : Prop :=
  ∀ location, first.kind? location = second.kind? location ∨
    ∃ bytes bytes', first.kind? location = some (.file bytes) ∧
      second.kind? location = some (.file bytes') ∧ decodeText bytes = decodeText bytes'

/-- That two trees have become other ones by the same changes: where the two do not look the same
afterwards, nothing has changed in either of them. -/
def SameChanges (before before' after after' : FileTree start) : Prop :=
  ∀ location, after.kind? location = after'.kind? location ∨
    after.kind? location = before.kind? location ∧ after'.kind? location = before'.kind? location

theorem SameChanges.refl (before before' : FileTree start) :
    SameChanges before before' before before' :=
  fun _ => .inr ⟨rfl, rfl⟩

/-- Trees that read alike still do after the same changes. -/
theorem SameChanges.readsAs (hchanges : SameChanges before before' after after')
    (hreads : before.ReadsAs before') : after.ReadsAs after' := by
  intro location
  rcases hchanges location with hsame | ⟨hafter, hafter'⟩
  · exact .inl hsame
  · rw [hafter, hafter']
    exact hreads location

/-- What is put into both trees where one path leads is one of the same changes. -/
theorem SameChanges.put (hchanges : SameChanges before before' after after') {entry : Entry}
    (hleaf : ∀ rest, rest ≠ [] → entry.kind? rest = none)
    (hlocate : after.locate path = .ok location) (hlocate' : after'.locate path = .ok location)
    (hplace : after.kind? location ≠ some .directory)
    (hplace' : after'.kind? location ≠ some .directory) :
    SameChanges before before' (after.put location entry) (after'.put location entry) := by
  intro other
  rw [kind?_put_of_locate hleaf hlocate hplace, kind?_put_of_locate hleaf hlocate' hplace']
  by_cases hother : other = location
  · rw [if_pos hother, if_pos hother]
    exact .inl rfl
  · rw [if_neg hother, if_neg hother]
    exact hchanges other

namespace ReadsAs

variable (hreads : first.ReadsAs second)
include hreads

/-- Trees that read alike have the same directories. -/
theorem kind?_eq_directory_iff :
    first.kind? location = some .directory ↔ second.kind? location = some .directory := by
  rcases hreads location with hsame | ⟨bytes, bytes', hfirst, hsecond, _⟩
  · rw [hsame]
  · simp [hfirst, hsecond]

/-- Trees that read alike have entries in the same places. -/
theorem kind?_eq_none_iff : first.kind? location = none ↔ second.kind? location = none := by
  rcases hreads location with hsame | ⟨bytes, bytes', hfirst, hsecond, _⟩
  · rw [hsame]
  · simp [hfirst, hsecond]

theorem step : first.step location component = second.step location component := by
  rw [step_eq_of_kind?, step_eq_of_kind?]
  rcases hreads location with hsame | ⟨bytes, bytes', hfirst, hsecond, _⟩
  · rw [hsame]
  · rw [hfirst, hsecond]

theorem walk (location : Location) (components : List RawText) :
    first.walk location components = second.walk location components := by
  induction components generalizing location with
  | nil => simp only [FileTree.walk]
  | cons component rest ih =>
      rw [FileTree.walk, FileTree.walk, hreads.step]
      cases second.step location component with
      | error kind => rfl
      | ok next => exact ih next

/-- A path leads to the same place in trees that read alike. -/
theorem locate (path : Path) : first.locate path = second.locate path := by
  rw [FileTree.locate, FileTree.locate, hreads.walk]

/-- The same requests to read fail, in the same way, and what is read is the same text. -/
theorem read (path : Path) :
    first.read path = second.read path ∨
      ∃ bytes bytes', first.read path = .ok bytes ∧ second.read path = .ok bytes' ∧
        decodeText bytes = decodeText bytes' := by
  rw [read_eq_of_kind?, read_eq_of_kind?, hreads.locate]
  cases second.locate path with
  | error kind => exact .inl rfl
  | ok location =>
      rcases hreads location with hsame | ⟨bytes, bytes', hfirst, hsecond, htext⟩
      · dsimp only
        rw [hsame]
        exact .inl rfl
      · exact .inr ⟨bytes, bytes', by simp only [hfirst], by simp only [hsecond], htext⟩

/-- Trees that read alike have the same answer for a directory. -/
theorem hasDirectory (path : Path) : first.hasDirectory path = second.hasDirectory path := by
  rw [hasDirectory_eq_of_kind?, hasDirectory_eq_of_kind?, hreads.locate]
  cases second.locate path with
  | error kind => rfl
  | ok location =>
      rw [Bool.eq_iff_iff]
      simpa using hreads.kind?_eq_directory_iff

end ReadsAs

/-- That two trees are the same but for how the lines of texts end. -/
def SameLines (first second : FileTree start) : Prop :=
  ∀ location, first.kind? location = second.kind? location ∨
    ∃ (text : List Char) (ending ending' : Text.LineEnding), '\r' ∉ text ∧
      first.kind? location = some (.file (Text.Utf8.encode (ending.spell text))) ∧
      second.kind? location = some (.file (Text.Utf8.encode (ending'.spell text)))

end FileTree

open FileTree

variable {start : Location} {path : Path} {text : List Char}
  {tree first second before before' : FileTree start}

/-- The bytes of a text read as the text, with its line endings unified. -/
theorem decodeText_encode (text : List Char) :
    decodeText (Text.Utf8.encode text) = .ok (String.ofList (Text.unifyLineEndings text)) := by
  rw [decodeText, Text.Utf8.decode_encode]

/-- A text without carriage returns is read however its lines end. -/
theorem decodeText_encode_spell {text : List Char} (htext : '\r' ∉ text)
    (ending : Text.LineEnding) :
    decodeText (Text.Utf8.encode (ending.spell text)) = .ok (String.ofList text) := by
  rw [decodeText_encode, ending.unifyLineEndings_spell htext]

/-- Trees that differ in how the lines of texts end read alike. -/
theorem FileTree.SameLines.readsAs (hlines : first.SameLines second) : first.ReadsAs second := by
  intro location
  rcases hlines location with hsame | ⟨text, ending, ending', htext, hfirst, hsecond⟩
  · exact .inl hsame
  · refine .inr ⟨_, _, hfirst, hsecond, ?_⟩
    rw [decodeText_encode_spell htext, decodeText_encode_spell htext]

/-- A file with the bytes of a text reads as the text, with its line endings unified. -/
theorem loadText_of_encode (hclear : path.fault? = none)
    (hread : tree.read path = .ok (Text.Utf8.encode text)) :
    FileAction.on (loadText path) tree =
      (.ok (String.ofList (Text.unifyLineEndings text)), tree) :=
  loadText_eq_ok_iff.mpr ⟨rfl, hclear, _, hread, decodeText_encode text⟩

namespace FileAction

variable {α β : Type} {relation : FileTree start → FileTree start → Prop}

/-- That a step ends the same way on related trees and leaves related trees. -/
def Agrees (relation : FileTree start → FileTree start → Prop)
    (action : FileAction (StateM (FileTree start)) α) : Prop :=
  ∀ first second, relation first second →
    (action.on first).1 = (action.on second).1 ∧ relation (action.on first).2 (action.on second).2

namespace Agrees

/-- A step that has nothing to do with files. -/
theorem of_result {action : FileAction (StateM (FileTree start)) α} {result : Except Interruption α}
    (hresult : ∀ tree, action.on tree = (result, tree)) : Agrees relation action := by
  intro first second hrelated
  rw [hresult, hresult]
  exact ⟨rfl, hrelated⟩

/-- Two steps in a row agree on related trees when each of them does. -/
theorem bind {action : FileAction (StateM (FileTree start)) α}
    {next : α → FileAction (StateM (FileTree start)) β} (haction : Agrees relation action)
    (hnext : ∀ value, Agrees relation (next value)) : Agrees relation (action >>= next) := by
  intro first second hrelated
  have hboth := haction first second hrelated
  rw [on_bind, on_bind]
  generalize action.on first = ended at hboth ⊢
  generalize action.on second = ended' at hboth ⊢
  obtain ⟨result, after⟩ := ended
  obtain ⟨result', after'⟩ := ended'
  obtain ⟨hresult, hafter⟩ := hboth
  obtain rfl : result = result' := hresult
  cases result with
  | error interruption => exact ⟨rfl, hafter⟩
  | ok value => exact hnext value after after' hafter

end Agrees

end FileAction

open FileAction

section

variable (hreads : before.ReadsAs before')
include hreads

/-- Reading a text gives the same for trees that read alike. -/
theorem agrees_loadText (path : Path) : Agrees (SameChanges before before') (loadText path) := by
  intro first second hchanges
  rw [on_loadText, on_loadText]
  cases path.fault? with
  | some fault => exact ⟨rfl, hchanges⟩
  | none =>
      rcases (hchanges.readsAs hreads).read path with
        hsame | ⟨bytes, bytes', hfirst, hsecond, htext⟩
      · rw [hsame]
        cases second.read path <;> exact ⟨rfl, hchanges⟩
      · rw [hfirst, hsecond]
        exact ⟨htext, hchanges⟩

/-- Writing a file makes the same change to trees that read alike. -/
theorem agrees_write (path : Path) (bytes : List UInt8) :
    Agrees (SameChanges before before') (demand (FileSystem.write path bytes)) := by
  intro first second hchanges
  have hboth := hchanges.readsAs hreads
  rw [on_write, on_write, write_eq_of_kind?, write_eq_of_kind?, hboth.locate]
  cases hlocate : second.locate path with
  | error kind => exact ⟨rfl, hchanges⟩
  | ok location =>
      dsimp only
      by_cases hplace : first.kind? location = some .directory
      · rw [if_pos hplace, if_pos (hboth.kind?_eq_directory_iff.mp hplace)]
        exact ⟨rfl, hchanges⟩
      · have hplace' := mt hboth.kind?_eq_directory_iff.mpr hplace
        rw [if_neg hplace, if_neg hplace']
        exact ⟨rfl, hchanges.put (Entry.kind?_file_of_ne_nil _) ((hboth.locate path).trans hlocate)
          hlocate hplace hplace'⟩

theorem agrees_writeText (path : Path) (text : RawText) :
    Agrees (SameChanges before before') (writeText path text) := by
  unfold writeText requireNoFault
  refine .bind (by cases path.fault? <;> exact .of_result fun _ => rfl) ?_
  intro _
  cases text.encode with
  | ok bytes => exact agrees_write hreads path bytes
  | error error => exact .bind (agrees_write hreads path []) fun _ => .of_result fun _ => rfl

/-- An attempt to make a directory makes the same change to trees that read alike. -/
theorem agrees_attemptDirectory (path : Path) :
    Agrees (SameChanges before before') (attemptDirectory path) := by
  intro first second hchanges
  have hboth := hchanges.readsAs hreads
  rw [on_attemptDirectory, on_attemptDirectory, makeDirectory_eq_of_kind?,
    makeDirectory_eq_of_kind?, hboth.locate, hboth.hasDirectory]
  cases path.fault? with
  | some fault => exact ⟨rfl, hchanges⟩
  | none =>
      cases hlocate : second.locate path with
      | error kind =>
          dsimp only
          split
          next => exact ⟨rfl, hchanges⟩
          next => split <;> exact ⟨rfl, hchanges⟩
      | ok location =>
          dsimp only
          by_cases hplace : first.kind? location = none
          · have hplace' := hboth.kind?_eq_none_iff.mp hplace
            rw [if_pos hplace, if_pos hplace']
            exact ⟨rfl, hchanges.put Entry.kind?_empty_of_ne_nil
              ((hboth.locate path).trans hlocate) hlocate (by simp [hplace]) (by simp [hplace'])⟩
          · rw [if_neg hplace, if_neg (mt hboth.kind?_eq_none_iff.mpr hplace)]
            dsimp only
            split
            next => exact ⟨rfl, hchanges⟩
            next => split <;> exact ⟨rfl, hchanges⟩

theorem agrees_requireDirectory (path : Path) :
    Agrees (SameChanges before before') (requireDirectory path) := by
  unfold requireDirectory
  refine .bind (agrees_attemptDirectory hreads path) ?_
  intro failed
  cases failed <;> exact .of_result fun _ => rfl

theorem agrees_makeDirectoriesTo (path : Path) (count : Nat) :
    Agrees (SameChanges before before') (makeDirectoriesTo path count) := by
  induction count with
  | zero => exact agrees_requireDirectory hreads _
  | succ count ih =>
      unfold makeDirectoriesTo
      refine .bind (agrees_attemptDirectory hreads _) ?_
      intro failed
      cases failed with
      | none => exact .of_result fun _ => rfl
      | some error => exact .bind ih fun _ => agrees_requireDirectory hreads _

theorem agrees_writeArtifact (directory : Path) (artifact : GivenArtifact) :
    Agrees (SameChanges before before') (writeArtifact directory artifact) := by
  unfold writeArtifact
  refine .bind (.of_result fun _ => on_mk_pure _ _) ?_
  intro name
  refine .bind (.of_result fun _ => on_mk_pure _ _) ?_
  intro content
  exact .bind (agrees_writeText hreads _ _) fun _ => .of_result fun _ => rfl

theorem agrees_writeEach (directory : Path) (artifacts : List GivenArtifact) :
    Agrees (SameChanges before before') (writeEach directory artifacts) := by
  induction artifacts with
  | nil => exact .of_result fun _ => rfl
  | cons artifact rest ih =>
      unfold writeEach
      refine .bind (agrees_writeArtifact hreads directory artifact) ?_
      intro path
      exact .bind ih fun _ => .of_result fun _ => rfl

/-- Artifacts are written in the same way into trees that read alike. -/
theorem agrees_writeArtifacts (directory : Path) (artifacts : List GivenArtifact) :
    Agrees (SameChanges before before') (writeArtifacts directory artifacts) :=
  .bind (agrees_makeDirectoriesTo hreads directory _) fun _ =>
    agrees_writeEach hreads directory artifacts

end

end ActionHandler.Files
