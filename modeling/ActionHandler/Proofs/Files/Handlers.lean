import ActionHandler.Proofs.Files.Writing
import ActionHandler.Proofs.Text.Utf8

/-! # Writing a handler

The handler of an action is a file directly below a directory, which is made first. When it has
been written, nothing else has changed but the directories on the way there. It is not written
because of an error about a path on this way, unless no request can be made about it.
-/

namespace ActionHandler.Files

open FileTree Graphql Handler
open Text (RawText EncodeError)

variable {start : Location} {directory : Path} {action text : String} {content : RawText}
  {before middle after : FileTree start} {interruption : Interruption}

/-- Different strings are the names of different files. -/
theorem FileName.ofText_inj {first second : String} :
    FileName.ofText first = FileName.ofText second ↔ first = second := by
  simp only [FileName.ofText, FileName.mk.injEq, RawText.bytes_ofString, Text.Utf8.encode_inj,
    String.toList_inj]

/-- A handler is one step below its directory. -/
theorem Path.target_handlerBelow (start : Location) (directory : Path) (action : String) :
    (directory.handlerBelow action).target start =
      directory.target start ++ [.ofText (fileName action)] :=
  target_concat start directory.root directory.components (fileName_ne action (by decide))

/-- How a text is saved as the handler of an action, below a directory: the tree in the middle
has the directory already, and not yet the handler. -/
structure Saves (directory : Path) (action text : String)
    (before middle after : FileTree start) : Prop where
  makes : FileAction.on (makeDirectories directory) before = (.ok (), middle)
  writes : FileAction.on (writeText (directory.handlerBelow action) text) middle =
    (.ok (), after)

namespace Saves

variable (hsaves : Saves directory action text before middle after)
include hsaves

theorem opens : Opens directory middle :=
  (opens_of_makeDirectories hsaves.makes).1

theorem grows : Grows directory before middle :=
  (opens_of_makeDirectories hsaves.makes).2

theorem accepts : Accepts (directory.handlerBelow action) middle := by
  obtain ⟨_, _, haccepts, _⟩ := writeText_eq_ok_iff.mp hsaves.writes
  exact haccepts

theorem puts : Puts ((directory.handlerBelow action).target start)
    (Text.Utf8.encode text.toList) middle after :=
  puts_of_writeText hsaves.writes

theorem keepsDirectories : middle.KeepsDirectories after :=
  hsaves.puts.keepsDirectories hsaves.accepts.place

theorem located : after.locate (directory.handlerBelow action) =
    .ok ((directory.handlerBelow action).target start) :=
  hsaves.keepsDirectories.locate hsaves.accepts.located

theorem read : after.read (directory.handlerBelow action) =
    .ok (Text.Utf8.encode text.toList) :=
  read_eq_ok_iff.mpr ⟨hsaves.located, hsaves.puts.self⟩

end Saves

/-- That a tree has become another one by the file of an action, written below a directory,
and by nothing else but the directories on the way there. -/
structure Confined (directory : Path) (action content : String)
    (before after : FileTree start) : Prop where
  located : after.locate (directory.handlerBelow action) =
    .ok (directory.target start ++ [.ofText ↑(action ++ ".js")])
  directory_located : after.locate directory = .ok (directory.target start)
  handler : after.kind? (directory.target start ++ [.ofText ↑(action ++ ".js")]) =
    some (.file (Text.Utf8.encode content.toList))
  files : ∀ location bytes, location ≠ directory.target start ++ [.ofText ↑(action ++ ".js")] →
    (after.kind? location = some (.file bytes) ↔ before.kind? location = some (.file bytes))
  directories : before.KeepsDirectories after
  new_directories : ∀ location, after.kind? location = some .directory →
    before.kind? location = some .directory ∨
      before.kind? location = none ∧ ∃ components, components <+: directory.components ∧
        after.locate ⟨directory.root, components⟩ = .ok location

/-- A handler that has been saved is all that changes, with the directories on the way there. -/
theorem Saves.confined (hsaves : Saves directory action text before middle after) :
    Confined directory action text before after := by
  have hgrows := hsaves.grows
  have hkeeps := hsaves.keepsDirectories
  have hopens := hsaves.opens.mono hkeeps
  have hputs := hsaves.puts
  have hlocated := hsaves.located
  rw [Path.target_handlerBelow, fileName] at hputs hlocated
  refine ⟨hlocated, hopens.located, hputs.self, ?_, ?_, ?_⟩
  · intro location bytes hlocation
    rw [hputs.of_ne hlocation, hgrows.kind?_eq_file_iff]
  · intro location hlocation
    exact hkeeps location (hgrows.keepsDirectories location hlocation)
  · intro location hlocation
    have hother : location ≠ directory.target start ++ [.ofText ↑(action ++ ".js")] := by
      rintro rfl
      rw [hputs.self] at hlocation
      cases hlocation
    rw [hputs.of_ne hother] at hlocation
    rcases hgrows location with hsame | ⟨hnone, _, components, hbegins, htarget⟩
    · exact .inl (hsame ▸ hlocation)
    · rw [htarget] at hnone ⊢
      exact .inr ⟨hnone, components, hbegins, locate_of_prefix hopens.located hbegins⟩

/-- The artifact of an action is written when it can be encoded and saved. -/
theorem writeArtifacts_eq_ok_iff (haction : IsName action) {paths : List Path} :
    FileAction.on (writeArtifacts directory [⟨some (fileName action), some content⟩]) before =
        (.ok paths, after) ↔
      paths = [directory.handlerBelow action] ∧
        ∃ text : String, content = text ∧ ∃ middle,
          Saves directory action text before middle after := by
  rw [on_writeArtifacts_singleton, Path.join_fileName haction]
  constructor
  · intro hwrite
    split at hwrite
    next => cases hwrite
    next middle hmade =>
      split at hwrite
      next => cases hwrite
      next hwritten =>
        cases hwrite
        obtain ⟨text, rfl, _⟩ := writeText_eq_ok_iff.mp hwritten
        exact ⟨rfl, text, rfl, middle, hmade, hwritten⟩
  · rintro ⟨rfl, text, rfl, middle, hmade, hwritten⟩
    simp only [hmade, hwritten]

/-- The artifact of an action fails as some string does, or it is torn: it cannot be encoded, and
an empty text has been saved in its place. -/
theorem string_or_torn_of_writeArtifacts_error (haction : IsName action)
    (hended : FileAction.on
      (writeArtifacts directory [⟨some (fileName action), some content⟩]) before =
        (.error interruption, after)) :
    (∃ text : String, FileAction.on
      (writeArtifacts directory [⟨some (fileName action), some text⟩]) before =
        (.error interruption, after)) ∨
      ∃ error middle, content.encode = .error error ∧
        interruption = .fault (.unencodable error) ∧
        Saves directory action "" before middle after := by
  cases hencode : content.encode with
  | ok bytes =>
      obtain ⟨text, rfl, _⟩ := RawText.encode_eq_ok_iff.mp hencode
      exact .inl ⟨text, hended⟩
  | error error =>
      rw [on_writeArtifacts_of_error hencode] at hended
      split at hended
      next hempty => exact .inl ⟨"", hempty.trans hended⟩
      next hempty =>
        cases hended
        obtain ⟨_, text, htext, middle, hsaves⟩ := (writeArtifacts_eq_ok_iff haction).mp hempty
        obtain rfl := RawText.ofString_inj.mp htext
        exact .inr ⟨error, middle, rfl, rfl, hsaves⟩

/-- An artifact that cannot be encoded leaves an empty file where a text could be saved. -/
theorem on_writeArtifacts_of_saves {error : EncodeError} (haction : IsName action)
    (hencode : content.encode = .error error)
    (hsaves : Saves directory action "" before middle after) :
    FileAction.on (writeArtifacts directory [⟨some (fileName action), some content⟩]) before =
      (.error (.fault (.unencodable error)), after) := by
  have hempty := (writeArtifacts_eq_ok_iff haction).mpr ⟨rfl, "", rfl, middle, hsaves⟩
  rw [on_writeArtifacts_of_error hencode, hempty]

/-- That a path is the beginning of another one. -/
def Path.Begins (first second : Path) : Prop :=
  first.root = second.root ∧ first.components <+: second.components

/-- Nothing is written under a directory about which no request can be made. -/
theorem writeArtifacts_of_fault {fault : Fault} (hfault : directory.fault? = some fault)
    (artifacts : List GivenArtifact) (before : FileTree start) :
    FileAction.on (writeArtifacts directory artifacts) before =
      (.error (.fault fault), before) := by
  have hattempt : FileAction.on (attemptDirectory directory) before =
      (.error (.fault fault), before) := by
    rw [on_attemptDirectory, hfault]
  rw [on_writeArtifacts, on_makeDirectories_of_attempt hattempt (by simp)]
  rfl

/-- The text of an action is not written because of an error about its path or about a path on
the way there. -/
theorem system_of_writeArtifacts_error {action : String} (haction : IsName action)
    (hclear : directory.fault? = none)
    (herror : FileAction.on (writeArtifacts directory [⟨some (fileName action), some text⟩])
      before = (.error interruption, after)) :
    ∃ error, interruption = .system error ∧
      error.path.Begins (directory.handlerBelow action) := by
  rcases cases_of_writeArtifacts_error herror with hmade | ⟨middle, _, hwritten⟩
  · have hends := makeDirectories_made directory before
    rw [hmade] at hends
    cases hends with
    | @stopped front _ _ hbegins hfails _ =>
        rcases hfails.cases_of_error with ⟨fault, hfront, _⟩ | ⟨kind, rfl⟩
        · obtain ⟨rest, hrest⟩ := hbegins
          obtain ⟨other, hother⟩ := Path.fault?_append hfront rest
          rw [hrest] at hother
          cases hclear.symm.trans hother
        · exact ⟨_, rfl, rfl, hbegins.trans (List.prefix_append _ _)⟩
  · rw [Path.join_fileName haction] at hwritten
    rcases writeText_eq_error_iff.mp hwritten with ⟨-, hrefuses⟩ | ⟨_, hencode, -⟩
    · cases hrefuses with
      | faulty hfault => cases (Path.fault?_handlerBelow haction hclear).symm.trans hfault
      | unreached => exact ⟨_, rfl, rfl, List.prefix_rfl⟩
      | occupied => exact ⟨_, rfl, rfl, List.prefix_rfl⟩
    · rw [RawText.encode_ofString] at hencode
      cases hencode

/-- Why the artifact of an action is not written, and the tree that is left. -/
inductive Unsaved (directory : Path) (action : String) (content : RawText)
    (before : FileTree start) : Interruption → FileTree start → Prop
  /-- No request can be made about its directory. -/
  | faulty {fault : Fault} (hfault : directory.fault? = some fault) :
      Unsaved directory action content before (.fault fault) before
  /-- A request on the way there fails. -/
  | failed {error : OsError} {after : FileTree start} (hclear : directory.fault? = none)
      (hpath : error.path.Begins (directory.handlerBelow action)) :
      Unsaved directory action content before (.system error) after
  /-- It cannot be encoded, and an empty text has been saved in its place. -/
  | torn {error : EncodeError} {middle after : FileTree start}
      (hencode : content.encode = .error error)
      (hsaves : Saves directory action "" before middle after) :
      Unsaved directory action content before (.fault (.unencodable error)) after

/-- The artifact of an action is not written for one of these reasons. -/
theorem unsaved_of_writeArtifacts_error (haction : IsName action)
    (herror : FileAction.on
      (writeArtifacts directory [⟨some (fileName action), some content⟩]) before =
        (.error interruption, after)) :
    Unsaved directory action content before interruption after := by
  cases hfault : directory.fault? with
  | some fault =>
      cases (writeArtifacts_of_fault hfault _ before).symm.trans herror
      exact .faulty hfault
  | none =>
      rcases string_or_torn_of_writeArtifacts_error haction herror with
        ⟨text, hstring⟩ | ⟨error, middle, hencode, rfl, hsaves⟩
      · obtain ⟨error, rfl, hpath⟩ := system_of_writeArtifacts_error haction hfault hstring
        exact .failed hfault hpath
      · exact .torn hencode hsaves

/-- Writing an artifact again, after it has failed, fails and changes nothing. -/
theorem writeArtifacts_again {name : RawText}
    (herror : FileAction.on (writeArtifacts directory [⟨some name, some content⟩]) before =
      (.error interruption, after)) :
    ∃ other, FileAction.on (writeArtifacts directory [⟨some name, some content⟩]) after =
      (.error other, after) := by
  rcases cases_of_writeArtifacts_error herror with hmade | ⟨middle, hmade, hwritten⟩
  · obtain ⟨other, hother⟩ := makeDirectories_again hmade
    exact ⟨other, by rw [on_writeArtifacts_singleton, hother]⟩
  · have hopens := (opens_of_makeDirectories hmade).1.mono
      (writeText_error_keepsDirectories hwritten)
    exact ⟨interruption, by
      rw [on_writeArtifacts_singleton, makeDirectories_of_opens hopens]
      simp only [writeText_again hwritten]⟩

end ActionHandler.Files
