import ActionHandler.Proofs.Files.Actions
import ActionHandler.Proofs.Files.Paths
import ActionHandler.Proofs.Files.Walk

/-! # Making directories

Making a directory with those above it keeps all files and directories, however it ends.
If no double dot leads back on the way, a directory that has just been made is empty, so
the next one can be made in it: making directories fails before it has changed anything,
or because a name or a path is too long.
-/

namespace ActionHandler.Files

open FileTree
open Text (RawText)

variable {start : Location}

/-- How an attempt to make one directory ends, and the tree that it leaves. -/
inductive Attempted (path : Path) (before : FileTree start) :
    Except Interruption (Option OsError) → FileTree start → Prop
  | refused {fault : Fault} (hfault : path.fault? = some fault) :
      Attempted path before (.error (.fault fault)) before
  | made {location : Location} (hclear : path.fault? = none)
      (hlocate : before.locate path = .ok location) (hentry : before.entry? location = none) :
      Attempted path before (.ok none) (before.put location .empty)
  | present {location : Location} {entries : List (FileName × Entry)}
      (hclear : path.fault? = none) (hlocate : before.locate path = .ok location)
      (hentry : before.entry? location = some (.directory entries)) :
      Attempted path before (.ok none) before
  | missing (hclear : path.fault? = none) (hlocate : before.locate path = .error .notFound) :
      Attempted path before (.ok (some ⟨.notFound, path⟩)) before
  | occupied {location : Location} {bytes : List UInt8}
      (hlocate : before.locate path = .ok location)
      (hentry : before.entry? location = some (.file bytes)) :
      Attempted path before (.error (.system ⟨.exists, path⟩)) before
  | barred {kind : OsErrorKind} (hlocate : before.locate path = .error kind)
      (hkind : kind ≠ .notFound) :
      Attempted path before (.error (.system ⟨kind, path⟩)) before

/-- An attempt to make a directory ends in one of these ways. -/
theorem attemptDirectory_attempted (path : Path) (before : FileTree start) :
    Attempted path before (FileAction.on (attemptDirectory path) before).1
      (FileAction.on (attemptDirectory path) before).2 := by
  rw [on_attemptDirectory]
  cases hfault : path.fault? with
  | some fault => exact .refused hfault
  | none =>
      rw [makeDirectory, hasDirectory]
      cases hlocate : before.locate path with
      | error kind =>
          by_cases hkind : kind = .notFound
          · subst hkind
            exact .missing hfault hlocate
          · simp only [hkind, if_false]
            exact .barred hlocate hkind
      | ok location =>
          cases hentry : before.entry? location with
          | none =>
              simp only [hentry]
              exact .made hfault hlocate hentry
          | some entry =>
              have hasked : before.top.isDirectoryAt location = entry.isDirectory := by
                unfold entry? at hentry
                rw [Entry.isDirectoryAt, hentry]
              cases entry with
              | file bytes =>
                  simp only [hentry, hasked]
                  exact .occupied hlocate hentry
              | directory entries =>
                  simp only [hentry, hasked]
                  exact .present hfault hlocate hentry

/-- An attempt keeps all files and directories. -/
theorem Attempted.keeps {path : Path} {before after : FileTree start}
    {result : Except Interruption (Option OsError)}
    (hattempted : Attempted path before result after) : before.Keeps after := by
  cases hattempted with
  | made _ _ hentry => exact .put_empty hentry
  | _ => exact .refl _

theorem attemptDirectory_keeps (path : Path) :
    FileAction.Respects (@Keeps start) (attemptDirectory path) :=
  fun tree => (attemptDirectory_attempted path tree).keeps

theorem requireDirectory_keeps (path : Path) :
    FileAction.Respects (@Keeps start) (requireDirectory path) := by
  unfold requireDirectory
  refine .bind (fun _ _ _ => Keeps.trans) (attemptDirectory_keeps path) ?_
  intro failed
  cases failed <;> exact .of_leaving .refl fun _ => rfl

theorem makeDirectoriesTo_keeps (path : Path) (count : Nat) :
    FileAction.Respects (@Keeps start) (makeDirectoriesTo path count) := by
  induction count with
  | zero => exact requireDirectory_keeps _
  | succ count ih =>
      unfold makeDirectoriesTo
      refine .bind (fun _ _ _ => Keeps.trans) (attemptDirectory_keeps _) ?_
      intro failed
      cases failed with
      | none => exact .of_leaving .refl fun _ => rfl
      | some error =>
          exact .bind (fun _ _ _ => Keeps.trans) ih fun _ => requireDirectory_keeps _

/-- Making directories keeps all files and directories, also if it fails on the way. -/
theorem makeDirectories_keeps (path : Path) :
    FileAction.Respects (@Keeps start) (makeDirectories path) :=
  makeDirectoriesTo_keeps path path.components.length

-- What is made on the way to a double dot stays when the rest fails.
example : FileAction.on (makeDirectories ⟨.relative, ["new", "..", "file"]⟩)
    (⟨.directory [("file", .file [])], rfl⟩ : FileTree []) =
      (.error (.system ⟨.exists, ⟨.relative, ["new", "..", "file"]⟩⟩),
        ⟨.directory [("file", .file []), ("new", .empty)], rfl⟩) := by
  rfl

/-- How making directories ends when there is no double dot on the way. -/
inductive Reached (path : Path) (before : FileTree start) :
    Except Interruption Unit → FileTree start → Prop
  | failed {interruption : Interruption} : Reached path before (.error interruption) before
  | stopped {other : Path} {after : FileTree start} :
      Reached path before (.error (.system ⟨.nameTooLong, other⟩)) after
  | present {entries : List (FileName × Entry)} (hclear : path.fault? = none)
      (hlocate : before.locate path = .ok (path.target start))
      (hentry : before.entry? (path.target start) = some (.directory entries)) :
      Reached path before (.ok ()) before
  | made {after : FileTree start} (hclear : path.fault? = none)
      (hlocate : after.locate path = .ok (path.target start))
      (hentry : after.entry? (path.target start) = some .empty) :
      Reached path before (.ok ()) after

variable {before after : FileTree start} {root : Root} {components : List RawText}
  {component : RawText}

namespace Reached

/-- A directory that has just been made is empty, and its path leads to it. -/
theorem of_made (hclear : Path.fault? ⟨root, components⟩ = none) {location : Location}
    (hlocate : after.locate ⟨root, components⟩ = .ok location)
    (hentry : after.entry? location = none) :
    Reached ⟨root, components⟩ before (.ok ()) (after.put location .empty) := by
  obtain rfl := eq_target_of_locate hlocate
  refine .made hclear ((Keeps.put_empty hentry).keepsDirectories.locate hlocate) ?_
  rcases cases_of_locate hlocate with hdirectory | ⟨above, name, hplace, hdirectory⟩
  · rw [kind?_eq_none_iff.mpr hentry] at hdirectory
    cases hdirectory
  · obtain ⟨entries, hentries⟩ := kind?_eq_directory_iff.mp hdirectory
    rw [hplace] at hentry ⊢
    exact entry?_put_self hentries hentry _

/-- An attempt ends with an error, reaches its directory, or finds one missing above it. -/
theorem of_attempt {result : Except Interruption (Option OsError)}
    (hattempted : Attempted ⟨root, components⟩ before result after) :
    (∃ interruption, result = .error interruption ∧ after = before) ∨
      (result = .ok none ∧ Reached ⟨root, components⟩ before (.ok ()) after) ∨
      ∃ error, result = .ok (some error) ∧ after = before ∧
        Path.fault? ⟨root, components⟩ = none ∧
        before.locate ⟨root, components⟩ = .error .notFound := by
  cases hattempted with
  | refused => exact .inl ⟨_, rfl, rfl⟩
  | made hclear hlocate hentry => exact .inr (.inl ⟨rfl, of_made hclear hlocate hentry⟩)
  | present hclear hlocate hentry =>
      obtain rfl := eq_target_of_locate hlocate
      exact .inr (.inl ⟨rfl, .present hclear hlocate hentry⟩)
  | missing hclear hlocate => exact .inr (.inr ⟨_, rfl, rfl, hclear, hlocate⟩)
  | occupied => exact .inl ⟨_, rfl, rfl⟩
  | barred => exact .inl ⟨_, rfl, rfl⟩

end Reached

theorem on_requireDirectory (path : Path) (tree : FileTree start) :
    FileAction.on (requireDirectory path) tree =
      match FileAction.on (attemptDirectory path) tree with
      | (.error interruption, after) => (.error interruption, after)
      | (.ok none, after) => (.ok (), after)
      | (.ok (some error), after) => (.error (.system error), after) := by
  rw [requireDirectory, FileAction.on_bind]
  cases FileAction.on (attemptDirectory path) tree with
  | mk result after =>
      cases result with
      | error interruption => rfl
      | ok failed => cases failed <;> rfl

theorem requireDirectory_reached (before : FileTree start) :
    Reached ⟨root, components⟩ before
      (FileAction.on (requireDirectory ⟨root, components⟩) before).1
      (FileAction.on (requireDirectory ⟨root, components⟩) before).2 := by
  have hattempted := attemptDirectory_attempted ⟨root, components⟩ before
  rw [on_requireDirectory]
  cases hon : FileAction.on (attemptDirectory ⟨root, components⟩) before with
  | mk result after =>
      rw [hon] at hattempted
      obtain ⟨_, rfl, rfl⟩ | ⟨rfl, hreached⟩ | ⟨_, rfl, rfl, _⟩ := Reached.of_attempt hattempted
      · exact .failed
      · exact hreached
      · exact .failed

/-- A directory can be made in one that has just been made, unless it or its path is too
long. -/
theorem requireDirectory_below_made {middle : FileTree start} (hparent : component ≠ "..")
    (hclear : Path.fault? ⟨root, components ++ [component]⟩ = none)
    (hlocate : middle.locate ⟨root, components⟩ = .ok (Path.target start ⟨root, components⟩))
    (hentry : middle.entry? (Path.target start ⟨root, components⟩) = some .empty) :
    Reached ⟨root, components ++ [component]⟩ before
      (FileAction.on (requireDirectory ⟨root, components ++ [component]⟩) middle).1
      (FileAction.on (requireDirectory ⟨root, components ++ [component]⟩) middle).2 := by
  -- The directory above is empty, so no entry is in the way.
  have hnothing : middle.entry? (Path.target start ⟨root, components ++ [component]⟩) = none := by
    rw [Path.target_concat start root components hparent, entry?_append, hentry]
    rfl
  have hbelow := locate_below hlocate hentry hparent
  have hattempted := attemptDirectory_attempted ⟨root, components ++ [component]⟩ middle
  rw [on_requireDirectory]
  cases hon : FileAction.on (attemptDirectory ⟨root, components ++ [component]⟩) middle with
  | mk result after =>
      rw [hon] at hattempted
      cases hattempted with
      | refused hfault => cases hclear.symm.trans hfault
      | made _ hlocate' hentry' => exact .of_made hclear hlocate' hentry'
      | present _ hlocate' hentry' =>
          obtain rfl := eq_target_of_locate hlocate'
          cases hnothing.symm.trans hentry'
      | missing _ hlocate' =>
          rw [hlocate'] at hbelow
          rcases hbelow with hbelow | hbelow <;> cases hbelow
      | occupied hlocate' hentry' =>
          obtain rfl := eq_target_of_locate hlocate'
          cases hnothing.symm.trans hentry'
      | barred hlocate' _ =>
          rw [hlocate'] at hbelow
          rcases hbelow with hbelow | hbelow
          · cases hbelow
            exact .stopped
          · cases hbelow

/-- When there is no double dot on the way, making directories fails before it has changed
anything, or because a name or a path is too long. -/
theorem makeDirectoriesTo_reached {path : Path} (hparent : ↑".." ∉ path.components)
    (before : FileTree start) {count : Nat} (hcount : count ≤ path.components.length) :
    Reached ⟨path.root, path.components.take count⟩ before
      (FileAction.on (makeDirectoriesTo path count) before).1
      (FileAction.on (makeDirectoriesTo path count) before).2 := by
  induction count with
  | zero => exact requireDirectory_reached before
  | succ count ih =>
      have hattempted :=
        attemptDirectory_attempted ⟨path.root, path.components.take (count + 1)⟩ before
      obtain ⟨component, htake⟩ : ∃ component,
          path.components.take (count + 1) = path.components.take count ++ [component] :=
        ⟨_, List.take_succ_eq_append_getElem hcount⟩
      have hcomponent : component ≠ ".." := by
        rintro rfl
        exact hparent (List.mem_of_mem_take (by rw [htake]; exact List.mem_concat_self))
      rw [makeDirectoriesTo, FileAction.on_bind]
      cases hon : FileAction.on
          (attemptDirectory ⟨path.root, path.components.take (count + 1)⟩) before with
      | mk result after =>
          rw [hon] at hattempted
          obtain ⟨_, rfl, rfl⟩ | ⟨rfl, hreached⟩ | ⟨_, rfl, rfl, hclear, hlocate⟩ :=
            Reached.of_attempt hattempted
          · exact .failed
          · exact hreached
          -- Something above is missing, so the directory above has to be made first.
          · have habove := ih (Nat.le_of_succ_le hcount)
            simp only [FileAction.on_bind]
            cases hmade : FileAction.on (makeDirectoriesTo path count) after with
            | mk result middle =>
                rw [hmade] at habove
                cases habove with
                | failed => exact .failed
                | stopped => exact .stopped
                | present _ hlocate' hentry' =>
                    -- Below a directory that was there, nothing above could have been missing.
                    have hbelow := locate_below hlocate' hentry' hcomponent
                    rw [← htake, hlocate] at hbelow
                    rcases hbelow with hbelow | hbelow <;> cases hbelow
                | made _ hlocate' hentry' =>
                    rw [htake] at hclear ⊢
                    exact requireDirectory_below_made hcomponent hclear hlocate' hentry'

/-- Without a double dot, a directory is reached, or nothing has been made in vain but for a
length. -/
theorem makeDirectories_reached {path : Path} (hparent : ↑".." ∉ path.components)
    (before : FileTree start) :
    Reached path before (FileAction.on (makeDirectories path) before).1
      (FileAction.on (makeDirectories path) before).2 := by
  have hreached := makeDirectoriesTo_reached hparent before (Nat.le_refl _)
  rw [List.take_length] at hreached
  exact hreached

end ActionHandler.Files
