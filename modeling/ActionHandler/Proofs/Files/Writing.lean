import ActionHandler.Proofs.Files.Artifacts
import ActionHandler.Proofs.Files.Growth

/-! # What reading and writing depend on

A text is read through the directories on the way to it and from the file at the end. So it
reads the same in every tree that has kept both. A text that is written below a directory
changes what stands at one location, and that it can be written depends on the directories
and on that location alone.
-/

namespace ActionHandler.Files

open FileTree
open Text (RawText EncodeError)

variable {start location : Location} {path directory : Path} {text : String} {content : RawText}
  {bytes : List UInt8} {tree before middle after : FileTree start} {interruption : Interruption}

/-- A file is read when its path leads to it. -/
theorem read_eq_ok_iff :
    tree.read path = .ok bytes ↔
      tree.locate path = .ok (path.target start) ∧
        tree.kind? (path.target start) = some (.file bytes) := by
  rw [read_eq_of_kind?]
  cases hlocate : tree.locate path with
  | error kind => simp
  | ok location =>
      obtain rfl := eq_target_of_locate hlocate
      cases hkind : tree.kind? (path.target start) with
      | none => simp [hkind]
      | some kind => cases kind <;> simp [hkind]

/-- A text that has been read is the text of the file that its path leads to. -/
theorem loadText_eq_ok_iff :
    FileAction.on (loadText path) tree = (.ok text, after) ↔
      after = tree ∧ path.fault? = none ∧
        ∃ bytes, tree.read path = .ok bytes ∧ decodeText bytes = .ok text := by
  rw [on_loadText]
  cases path.fault? with
  | some fault => simp
  | none =>
      cases tree.read path with
      | error error => simp
      | ok bytes => simp [and_comm, eq_comm]

/-- A text reads the same where the directories and its file have been kept. -/
theorem loadText_of_kept (hload : FileAction.on (loadText path) before = (.ok text, before))
    (hkeeps : before.KeepsDirectories after)
    (hfile : ∀ bytes, before.kind? (path.target start) = some (.file bytes) →
      after.kind? (path.target start) = some (.file bytes)) :
    FileAction.on (loadText path) after = (.ok text, after) := by
  obtain ⟨-, hclear, bytes, hread, hdecode⟩ := loadText_eq_ok_iff.mp hload
  obtain ⟨hlocate, hkind⟩ := read_eq_ok_iff.mp hread
  have hread' := read_eq_ok_iff.mpr ⟨hkeeps.locate hlocate, hfile bytes hkind⟩
  exact loadText_eq_ok_iff.mpr ⟨rfl, hclear, bytes, hread', hdecode⟩

/-- That a path leads to where a file can be written. -/
structure Accepts (path : Path) (tree : FileTree start) : Prop where
  clear : path.fault? = none
  located : tree.locate path = .ok (path.target start)
  place : tree.kind? (path.target start) ≠ some .directory

/-- Why no file can be written where a path leads. -/
inductive Refuses (path : Path) (tree : FileTree start) : Interruption → Prop
  | faulty {fault : Fault} (hfault : path.fault? = some fault) : Refuses path tree (.fault fault)
  | unreached {kind : OsErrorKind} (hclear : path.fault? = none)
      (hlocate : tree.locate path = .error kind) : Refuses path tree (.system ⟨kind, path⟩)
  | occupied (hclear : path.fault? = none) (hlocate : tree.locate path = .ok (path.target start))
      (hplace : tree.kind? (path.target start) = some .directory) :
      Refuses path tree (.system ⟨.isDirectory, path⟩)

/-- A file can be written where a path leads, or there is one reason why not. -/
theorem accepts_or_refuses (path : Path) (tree : FileTree start) :
    Accepts path tree ∨ ∃ interruption, Refuses path tree interruption := by
  cases hfault : path.fault? with
  | some fault => exact .inr ⟨_, .faulty hfault⟩
  | none =>
      cases hlocate : tree.locate path with
      | error kind => exact .inr ⟨_, .unreached hfault hlocate⟩
      | ok location =>
          obtain rfl := eq_target_of_locate hlocate
          by_cases hplace : tree.kind? (path.target start) = some .directory
          · exact .inr ⟨_, .occupied hfault hlocate hplace⟩
          · exact .inl ⟨hfault, hlocate, hplace⟩

/-- A string is put where it can be written. -/
theorem on_writeText_of_accepts (haccepts : Accepts path tree) (text : String) :
    FileAction.on (writeText path text) tree =
      (.ok (), tree.put (path.target start) (.file (Text.Utf8.encode text.toList))) := by
  rw [on_writeText, haccepts.clear, RawText.encode_ofString]
  simp only [write_eq_of_kind?, haccepts.located, if_neg haccepts.place]

/-- Where nothing can be written, nothing is changed, whatever the content is. -/
theorem on_writeText_of_refuses (hrefuses : Refuses path tree interruption) (content : RawText) :
    FileAction.on (writeText path content) tree = (.error interruption, tree) := by
  rw [on_writeText]
  cases hrefuses with
  | faulty hfault => rw [hfault]
  | unreached hclear hlocate =>
      rw [hclear]
      cases content.encode <;> simp only [write_eq_of_kind?, hlocate]
  | occupied hclear hlocate hplace =>
      rw [hclear]
      cases content.encode <;> simp only [write_eq_of_kind?, hlocate, if_pos hplace]

/-- A text is written when it can be encoded and a file can be where its path leads. -/
theorem writeText_eq_ok_iff :
    FileAction.on (writeText path content) tree = (.ok (), after) ↔
      ∃ text : String, content = text ∧ Accepts path tree ∧
        after = tree.put (path.target start) (.file (Text.Utf8.encode text.toList)) := by
  constructor
  · intro hwrite
    rcases accepts_or_refuses path tree with haccepts | ⟨interruption, hrefuses⟩
    · cases hencode : content.encode with
      | error error =>
          rw [on_writeText_of_error hencode, on_writeText_of_accepts haccepts] at hwrite
          cases hwrite
      | ok bytes =>
          obtain ⟨text, rfl, -⟩ := RawText.encode_eq_ok_iff.mp hencode
          rw [on_writeText_of_accepts haccepts] at hwrite
          cases hwrite
          exact ⟨text, rfl, haccepts, rfl⟩
    · rw [on_writeText_of_refuses hrefuses] at hwrite
      cases hwrite
  · rintro ⟨text, rfl, haccepts, rfl⟩
    exact on_writeText_of_accepts haccepts text

/-- A text is not written when no file can be where its path leads, or when an empty file has
been written there and it cannot be encoded. -/
theorem writeText_eq_error_iff :
    FileAction.on (writeText path content) tree = (.error interruption, after) ↔
      (after = tree ∧ Refuses path tree interruption) ∨
        ∃ error, content.encode = .error error ∧ interruption = .fault (.unencodable error) ∧
          Accepts path tree ∧ after = tree.put (path.target start) (.file []) := by
  constructor
  · intro herror
    rcases accepts_or_refuses path tree with haccepts | ⟨other, hrefuses⟩
    · cases hencode : content.encode with
      | error error =>
          rw [on_writeText_of_error hencode, on_writeText_of_accepts haccepts] at herror
          cases herror
          exact .inr ⟨error, rfl, rfl, haccepts, rfl⟩
      | ok bytes =>
          obtain ⟨text, rfl, -⟩ := RawText.encode_eq_ok_iff.mp hencode
          rw [on_writeText_of_accepts haccepts] at herror
          cases herror
    · rw [on_writeText_of_refuses hrefuses] at herror
      cases herror
      exact .inl ⟨rfl, hrefuses⟩
  · rintro (⟨rfl, hrefuses⟩ | ⟨error, hencode, rfl, haccepts, rfl⟩)
    · exact on_writeText_of_refuses hrefuses content
    · rw [on_writeText_of_error hencode, on_writeText_of_accepts haccepts]
      rfl

/-- That a tree has become another one by a file that has been put somewhere. -/
def Puts (location : Location) (bytes : List UInt8) (before after : FileTree start) : Prop :=
  ∀ other, after.kind? other =
    if other = location then some (.file bytes) else before.kind? other

namespace Puts

theorem self (hputs : Puts location bytes before after) :
    after.kind? location = some (.file bytes) := by
  rw [hputs, if_pos rfl]

theorem of_ne (hputs : Puts location bytes before after) {other : Location}
    (hother : other ≠ location) : after.kind? other = before.kind? other := by
  rw [hputs, if_neg hother]

/-- Files that are put into different places can be put there in either order. -/
theorem comm {location' : Location} {bytes' : List UInt8} {after' last last' : FileTree start}
    (hlocation : location ≠ location') (hfirst : Puts location bytes before after)
    (hsecond : Puts location' bytes' after last) (hfirst' : Puts location' bytes' before after')
    (hsecond' : Puts location bytes after' last') : Alike last last' := by
  intro other
  rw [hsecond, hfirst, hsecond', hfirst']
  by_cases hother : other = location
  · rw [if_neg (hother ▸ hlocation), if_pos hother, if_pos hother]
  · rw [if_neg hother, if_neg hother]

/-- A file that is put where it is already changes nothing. -/
theorem again {last : FileTree start} (hfirst : Puts location bytes before after)
    (hsecond : Puts location bytes after last) : Alike last after := by
  intro other
  rw [hsecond]
  by_cases hother : other = location
  · rw [if_pos hother, hother, hfirst.self]
  · rw [if_neg hother]

/-- A file that is put where no directory is keeps the directories. -/
theorem keepsDirectories (hputs : Puts location bytes before after)
    (hplace : before.kind? location ≠ some .directory) : before.KeepsDirectories after := by
  intro other hother
  rw [hputs.of_ne, hother]
  rintro rfl
  exact hplace hother

end Puts

/-- No directory is new where a file has been put. -/
theorem Puts.keepsDirectories_back (hputs : Puts location bytes before after) :
    after.KeepsDirectories before := by
  intro other hother
  by_cases hplace : other = location
  · rw [hplace, hputs.self] at hother
    cases hother
  · rwa [hputs.of_ne hplace] at hother

namespace Accepts

/-- A file can be written in every tree with the same directories. -/
theorem mono (haccepts : Accepts path before) (hkeeps : before.KeepsDirectories after)
    (hback : after.KeepsDirectories before) : Accepts path after :=
  ⟨haccepts.clear, hkeeps.locate haccepts.located, fun hplace => haccepts.place (hback _ hplace)⟩

/-- A file that is put where a path leads is all that changes. -/
theorem puts (haccepts : Accepts path tree) (bytes : List UInt8) :
    Puts (path.target start) bytes tree (tree.put (path.target start) (.file bytes)) :=
  kind?_put_of_locate (Entry.kind?_file_of_ne_nil bytes) haccepts.located haccepts.place

/-- Where files can be written does not change when one is. -/
theorem put_iff (haccepts : Accepts path tree) (bytes : List UInt8) {other : Path} :
    Accepts other (tree.put (path.target start) (.file bytes)) ↔ Accepts other tree := by
  have hputs := haccepts.puts bytes
  have hkeeps := hputs.keepsDirectories haccepts.place
  have hback := hputs.keepsDirectories_back
  exact ⟨fun hother => hother.mono hback hkeeps, fun hother => hother.mono hkeeps hback⟩

end Accepts

/-- A file that is written is all that changes. -/
theorem puts_of_writeText
    (hwrite : FileAction.on (writeText path text) before = (.ok (), after)) :
    Puts (path.target start) (Text.Utf8.encode text.toList) before after := by
  obtain ⟨other, htext, haccepts, rfl⟩ := writeText_eq_ok_iff.mp hwrite
  obtain rfl := RawText.ofString_inj.mp htext
  exact haccepts.puts _

/-- After making a directory, its path leads to one, and nothing else is new but those above it. -/
theorem opens_of_makeDirectories
    (hmade : FileAction.on (makeDirectories directory) before = (.ok (), middle)) :
    Opens directory middle ∧ Grows directory before middle := by
  have hends := makeDirectories_made directory before
  rw [hmade] at hends
  cases hends with
  | done hopens hgrows => exact ⟨hopens, hgrows⟩

/-- Writing a text again, after it has failed, fails in the same way and changes nothing, even if
it has left an empty file. -/
theorem writeText_again
    (herror : FileAction.on (writeText path content) before = (.error interruption, after)) :
    FileAction.on (writeText path content) after = (.error interruption, after) := by
  rcases writeText_eq_error_iff.mp herror with ⟨rfl, _⟩ | ⟨error, hencode, rfl, haccepts, rfl⟩
  · exact herror
  · have hself := kind?_eq_file_iff.mp (haccepts.puts []).self
    refine writeText_eq_error_iff.mpr (.inr ⟨error, hencode, rfl, ?_, (put_self hself).symm⟩)
    exact (haccepts.put_iff []).mpr haccepts

/-- A text that cannot be written keeps the directories, even if it leaves an empty file. -/
theorem writeText_error_keepsDirectories
    (herror : FileAction.on (writeText path content) before = (.error interruption, after)) :
    before.KeepsDirectories after := by
  rcases writeText_eq_error_iff.mp herror with ⟨rfl, _⟩ | ⟨_, _, _, haccepts, rfl⟩
  · exact fun _ hlocation => hlocation
  · exact (haccepts.puts []).keepsDirectories haccepts.place

end ActionHandler.Files
