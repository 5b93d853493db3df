import ActionHandler.Files.Artifact
import ActionHandler.Generation
import ActionHandler.Proofs.Files.Directories

/-! # Writing an artifact

Writing a text that can be encoded changes a tree only if it succeeds. So when one artifact is
written under a directory and that fails, the directories that were made on the way are all that
may have changed, and without a double dot on the way there are none. A text that cannot be
encoded is written like an empty one, and fails afterwards.
-/

namespace ActionHandler.Files

open FileTree Graphql Handler
open Text (RawText EncodeError)

variable {start : Location} {before after : FileTree start} {directory : Path}
  {interruption : Interruption} {name content : RawText} {error : EncodeError}

/-- A string that cannot be written changes nothing. -/
theorem writeText_error {path : Path} {text : String}
    (herror : FileAction.on (writeText path text) before = (.error interruption, after)) :
    after = before := by
  rw [on_writeText, RawText.encode_ofString] at herror
  split at herror
  next => exact (Prod.mk.inj herror).2.symm
  next =>
    split at herror
    next => exact (Prod.mk.inj herror).2.symm
    next => cases herror
  next hencode => cases hencode

/-- A text that cannot be encoded is written like an empty one, and fails afterwards. -/
theorem on_writeText_of_error (hencode : content.encode = .error error) (path : Path)
    (tree : FileTree start) :
    FileAction.on (writeText path content) tree =
      match FileAction.on (writeText path "") tree with
      | (.error interruption, after) => (.error interruption, after)
      | (.ok (), after) => (.error (.fault (.unencodable error)), after) := by
  have hempty : RawText.encode "" = .ok [] := rfl
  rw [on_writeText, on_writeText, hencode, hempty]
  cases path.fault? with
  | some fault => rfl
  | none => cases hwrite : tree.write path [] <;> simp only [hwrite]

/-- The directory is made before anything is written. -/
theorem on_writeArtifacts (directory : Path) (artifacts : List GivenArtifact)
    (tree : FileTree start) :
    FileAction.on (writeArtifacts directory artifacts) tree =
      match FileAction.on (makeDirectories directory) tree with
      | (.error interruption, after) => (.error interruption, after)
      | (.ok (), middle) => FileAction.on (writeEach directory artifacts) middle := by
  rw [writeArtifacts, FileAction.on_bind]
  cases FileAction.on (makeDirectories directory) tree with
  | mk result after => cases result <;> rfl

theorem on_writeArtifact_given (directory : Path) (name content : RawText)
    (tree : FileTree start) :
    FileAction.on (writeArtifact directory ⟨some name, some content⟩) tree =
      FileAction.on (writeText (directory.join name) content >>= fun _ =>
        pure (directory.join name)) tree := by
  have hname : ask "name" (some name) = .ok name := rfl
  have hcontent : ask "content" (some content) = .ok content := rfl
  simp only [writeArtifact, FileAction.on_bind, FileAction.on_mk_pure, hname, hcontent]

/-- One artifact is written behind its directory. -/
theorem on_writeArtifacts_singleton (directory : Path) (name content : RawText)
    (tree : FileTree start) :
    FileAction.on (writeArtifacts directory [⟨some name, some content⟩]) tree =
      match FileAction.on (makeDirectories directory) tree with
      | (.error interruption, after) => (.error interruption, after)
      | (.ok (), middle) =>
          match FileAction.on (writeText (directory.join name) content) middle with
          | (.error interruption, after) => (.error interruption, after)
          | (.ok (), after) => (.ok [directory.join name], after) := by
  rw [on_writeArtifacts]
  cases FileAction.on (makeDirectories directory) tree with
  | mk result middle =>
      cases result with
      | error interruption => rfl
      | ok value =>
          simp only [writeEach, FileAction.on_bind, on_writeArtifact_given]
          cases FileAction.on (writeText (directory.join name) content) middle with
          | mk result after => cases result <;> rfl

/-- An artifact that cannot be encoded is written like an empty one, and fails afterwards. -/
theorem on_writeArtifacts_of_error (hencode : content.encode = .error error) (directory : Path)
    (name : RawText) (tree : FileTree start) :
    FileAction.on (writeArtifacts directory [⟨some name, some content⟩]) tree =
      match FileAction.on (writeArtifacts directory [⟨some name, some ""⟩]) tree with
      | (.error interruption, after) => (.error interruption, after)
      | (.ok _, after) => (.error (.fault (.unencodable error)), after) := by
  rw [on_writeArtifacts_singleton, on_writeArtifacts_singleton]
  cases FileAction.on (makeDirectories directory) tree with
  | mk result middle =>
      cases result with
      | error interruption => rfl
      | ok value =>
          simp only [on_writeText_of_error hencode]
          cases FileAction.on (writeText (directory.join name) "") middle with
          | mk result after => cases result <;> rfl

/-- Writing one artifact fails while making its directory or while writing its text. -/
theorem cases_of_writeArtifacts_error
    (herror : FileAction.on (writeArtifacts directory [⟨some name, some content⟩]) before =
      (.error interruption, after)) :
    FileAction.on (makeDirectories directory) before = (.error interruption, after) ∨
      ∃ middle, FileAction.on (makeDirectories directory) before = (.ok (), middle) ∧
        FileAction.on (writeText (directory.join name) content) middle =
          (.error interruption, after) := by
  rw [on_writeArtifacts_singleton] at herror
  split at herror
  next hmade =>
    cases herror
    exact .inl hmade
  next middle hmade =>
    split at herror
    next hwritten =>
      cases herror
      exact .inr ⟨middle, hmade, hwritten⟩
    next => cases herror

/-- Writing one artifact keeps all files and directories if it fails. -/
theorem writeArtifacts_error_keeps {text : String}
    (herror : FileAction.on (writeArtifacts directory [⟨some name, some text⟩]) before =
      (.error interruption, after)) : before.Keeps after := by
  have hkeeps := makeDirectories_keeps directory before
  obtain hmade | ⟨middle, hmade, hwritten⟩ := cases_of_writeArtifacts_error herror
  · rw [hmade] at hkeeps
    exact hkeeps
  · rw [hmade] at hkeeps
    rw [writeText_error hwritten]
    exact hkeeps

/-- The text of an action can be written into a directory that has just been made, unless
a name or a path is too long. -/
theorem writeText_error_below_made {action text : String} (haction : IsName action)
    (hclear : directory.fault? = none)
    (hlocate : before.locate directory = .ok (directory.target start))
    (hentry : before.entry? (directory.target start) = some .empty)
    (herror : FileAction.on (writeText (directory.join (fileName action)) text) before =
      (.error interruption, after)) :
    ∃ path, interruption = .system ⟨.nameTooLong, path⟩ := by
  have hnothing : before.entry? (directory.target start ++ [.ofText (fileName action)]) = none := by
    rw [entry?_append, hentry]
    rfl
  have hname : (fileName action : RawText) ≠ ".." := Path.fileName_ne action (by decide)
  have hbelow := locate_below hlocate hentry hname
  rw [Path.join_fileName haction, on_writeText, Path.fault?_handlerBelow haction hclear,
    RawText.encode_ofString] at herror
  dsimp only at herror
  rw [write, Path.handlerBelow] at herror
  rcases hbelow with hbelow | hbelow
  · rw [hbelow] at herror
    cases herror
    exact ⟨_, rfl⟩
  · rw [hbelow] at herror
    simp only [hnothing] at herror
    cases herror

/-- When there is no double dot on the way, writing the artifact of an action fails without
having changed anything, or because a name or a path is too long. -/
theorem writeArtifacts_error_unchanged {action text : String} (haction : IsName action)
    (hparent : ↑".." ∉ directory.components)
    (herror : FileAction.on
      (writeArtifacts directory [⟨some (fileName action), some text⟩]) before =
        (.error interruption, after)) :
    after = before ∨ ∃ path, interruption = .system ⟨.nameTooLong, path⟩ := by
  have hreached := makeDirectories_reached hparent before
  obtain hmade | ⟨middle, hmade, hwritten⟩ := cases_of_writeArtifacts_error herror
  · rw [hmade] at hreached
    cases hreached with
    | failed => exact .inl rfl
    | stopped => exact .inr ⟨_, rfl⟩
  · rw [hmade] at hreached
    cases hreached with
    | present => exact .inl (writeText_error hwritten)
    | made hclear hlocate hentry =>
        -- The directory is new, and writing into it leaves only one way to fail.
        exact .inr (writeText_error_below_made haction hclear hlocate hentry hwritten)

end ActionHandler.Files
