import ActionHandler.Proofs.Files.Directories

/-! # What making directories adds

Making a directory with those above it adds directories where prefixes of its path lead, and
nothing else. It ends with the path leading to a directory, or at a prefix of the path that
cannot become one. Every path that goes on from there fails too, so trying again changes
nothing.
-/

namespace ActionHandler.Files

open FileTree
open Text (RawText)

variable {start : Location} {path : Path} {root : Root} {front components : List RawText}
  {component : RawText} {tree before middle after : FileTree start}
  {interruption : Interruption}

/-- That a tree has become another one by nothing but new directories, which stand where
prefixes of a path lead. -/
def Grows (path : Path) (before after : FileTree start) : Prop :=
  ∀ location, after.kind? location = before.kind? location ∨
    before.kind? location = none ∧ after.kind? location = some .directory ∧
      ∃ components, components <+: path.components ∧
        location = Path.target start ⟨path.root, components⟩

namespace Grows

theorem refl (path : Path) (tree : FileTree start) : Grows path tree tree :=
  fun _ => .inl rfl

theorem trans (hfirst : Grows path before middle) (hsecond : Grows path middle after) :
    Grows path before after := by
  intro location
  rcases hsecond location with hsame | ⟨hnone, hnew, hbegins⟩
  · rw [hsame]
    exact hfirst location
  · rcases hfirst location with hsame | ⟨_, hold, _⟩
    · exact .inr ⟨hsame ▸ hnone, hnew, hbegins⟩
    · rw [hold] at hnone
      cases hnone

/-- What grows along the beginning of a path grows along the path. -/
theorem of_prefix (hbegins : front <+: components) (hgrows : Grows ⟨root, front⟩ before after) :
    Grows ⟨root, components⟩ before after := by
  intro location
  refine (hgrows location).imp_right ?_
  rintro ⟨hnone, hnew, shorter, hshorter, htarget⟩
  exact ⟨hnone, hnew, shorter, hshorter.trans hbegins, htarget⟩

/-- A tree that grows keeps its directories. -/
theorem keepsDirectories (hgrows : Grows path before after) : before.KeepsDirectories after := by
  intro location hlocation
  rcases hgrows location with hsame | ⟨_, hnew, _⟩
  · rw [hsame, hlocation]
  · exact hnew

/-- A tree that grows keeps its files and gets no new ones. -/
theorem kind?_eq_file_iff (hgrows : Grows path before after) {location : Location}
    {bytes : List UInt8} :
    after.kind? location = some (.file bytes) ↔ before.kind? location = some (.file bytes) := by
  rcases hgrows location with hsame | ⟨hnone, hnew, _⟩
  · rw [hsame]
  · simp [hnone, hnew]

end Grows

/-- That a path leads to a directory. -/
structure Opens (path : Path) (tree : FileTree start) : Prop where
  clear : path.fault? = none
  located : tree.locate path = .ok (path.target start)
  directory : tree.kind? (path.target start) = some .directory

/-- A path that leads to a directory does so in every tree that keeps the directories. -/
theorem Opens.mono (hopens : Opens path before) (hkeeps : before.KeepsDirectories after) :
    Opens path after :=
  ⟨hopens.clear, hkeeps.locate hopens.located, hkeeps _ hopens.directory⟩

/-- From a directory, no component leads to a want of directories. -/
theorem Opens.locate_ne_notFound (hopens : Opens ⟨root, components⟩ tree) (component : RawText) :
    tree.locate ⟨root, components ++ [component]⟩ ≠ .error .notFound := by
  obtain ⟨entries, hentries⟩ := kind?_eq_directory_iff.mp hopens.directory
  rw [locate, walk_concat, walk_of_locate hopens.located]
  simp only [step_of_directory hentries]
  split
  · simp
  · split <;> simp

namespace Attempted

/-- An attempt makes no more than the directory that its path leads to. -/
theorem grows {result : Except Interruption (Option OsError)}
    (hattempted : Attempted path before result after) : Grows path before after := by
  cases hattempted with
  | made _ hlocate hentry =>
      have hnone := kind?_eq_none_iff.mpr hentry
      intro other
      rw [kind?_put_of_locate Entry.kind?_empty_of_ne_nil hlocate (by simp [hnone])]
      split
      next hother =>
        subst hother
        exact .inr ⟨hnone, rfl, path.components, List.prefix_rfl, eq_target_of_locate hlocate⟩
      next => exact .inl rfl
  | _ => exact .refl _ _

/-- After an attempt that succeeds, the path leads to a directory. -/
theorem opens (hattempted : Attempted path before (.ok none) after) : Opens path after := by
  cases hattempted with
  | made hclear hlocate hentry =>
      have hnone := kind?_eq_none_iff.mpr hentry
      have hkeeps := (Keeps.put_empty hentry).keepsDirectories
      obtain rfl := eq_target_of_locate hlocate
      refine ⟨hclear, hkeeps.locate hlocate, ?_⟩
      rw [kind?_put_of_locate Entry.kind?_empty_of_ne_nil hlocate (by simp [hnone]), if_pos rfl]
      rfl
  | present hclear hlocate hentry =>
      obtain rfl := eq_target_of_locate hlocate
      exact ⟨hclear, hlocate, kind?_eq_directory_iff.mpr ⟨_, hentry⟩⟩

/-- An attempt fails because no request can be made, or with an error about its path. -/
theorem cases_of_error (hattempted : Attempted path before (.error interruption) after) :
    (∃ fault, path.fault? = some fault ∧ interruption = .fault fault) ∨
      ∃ kind, interruption = .system ⟨kind, path⟩ := by
  cases hattempted with
  | refused hfault => exact .inl ⟨_, hfault, rfl⟩
  | occupied => exact .inr ⟨_, rfl⟩
  | barred => exact .inr ⟨_, rfl⟩

end Attempted

/-- A directory that is there need not be made. -/
theorem attemptDirectory_of_opens (hopens : Opens path tree) :
    FileAction.on (attemptDirectory path) tree = (.ok none, tree) := by
  obtain ⟨entries, hentries⟩ := kind?_eq_directory_iff.mp hopens.directory
  have hpresent : tree.makeDirectory path = .error ⟨.exists, path⟩ := by
    simp [makeDirectory, hopens.located, hentries]
  have hasked : tree.hasDirectory path = true := by
    simp [hasDirectory_eq_of_kind?, hopens.located, hopens.directory]
  rw [on_attemptDirectory, hopens.clear, hpresent]
  simp [hasked]

/-- A path that leads nowhere leads nowhere when it goes on, unless it gets too long. -/
theorem locate_append_of_error {kind : OsErrorKind}
    (hlocate : tree.locate ⟨root, front⟩ = .error kind) (rest : List RawText) :
    tree.locate ⟨root, front ++ rest⟩ = .error .nameTooLong ∨
      tree.locate ⟨root, front ++ rest⟩ = .error kind := by
  unfold locate at hlocate ⊢
  split at hlocate
  next hlimit =>
    rw [if_pos (Path.lt_size_text_append (by decide) hlimit rest)]
    exact .inl rfl
  next =>
    split
    next => exact .inl rfl
    next =>
      rw [walk_append, hlocate]
      exact .inr rfl

/-- On the way to where a path leads, its prefixes lead somewhere. -/
theorem locate_of_prefix {location : Location}
    (hlocate : tree.locate ⟨root, components⟩ = .ok location) (hbegins : front <+: components) :
    tree.locate ⟨root, front⟩ = .ok (Path.target start ⟨root, front⟩) := by
  obtain ⟨rest, rfl⟩ := hbegins
  cases hfront : tree.locate ⟨root, front⟩ with
  | ok location => rw [eq_target_of_locate hfront]
  | error kind =>
      rcases locate_append_of_error hfront rest with hnext | hnext
      · cases hlocate.symm.trans hnext
      · cases hlocate.symm.trans hnext

/-- No path leads on from a file. -/
theorem locate_append_of_file {location : Location} {bytes : List UInt8} {rest : List RawText}
    (hlocate : tree.locate ⟨root, front⟩ = .ok location)
    (hentry : tree.entry? location = some (.file bytes)) (hrest : rest ≠ []) :
    tree.locate ⟨root, front ++ rest⟩ = .error .nameTooLong ∨
      tree.locate ⟨root, front ++ rest⟩ = .error .notDirectory := by
  obtain ⟨first, others, rfl⟩ := List.exists_cons_of_ne_nil hrest
  rw [locate, walk_append, walk_of_locate hlocate]
  simp only [walk, step, hentry]
  split
  next => exact .inl rfl
  next => exact .inr rfl

/-- Where an attempt fails, it fails for every path that goes on from there. -/
theorem attemptDirectory_error_of_prefix
    (hfails : Attempted ⟨root, front⟩ tree (.error interruption) tree)
    (hbegins : front <+: components) :
    ∃ other, FileAction.on (attemptDirectory ⟨root, components⟩) tree = (.error other, tree) := by
  obtain ⟨rest, rfl⟩ := hbegins
  have hbarred : ∀ kind, kind ≠ .notFound →
      tree.locate ⟨root, front ++ rest⟩ = .error kind →
      ∃ other, FileAction.on (attemptDirectory ⟨root, front ++ rest⟩) tree =
        (.error other, tree) := by
    intro kind hkind hlocate
    rw [on_attemptDirectory]
    split
    · exact ⟨_, rfl⟩
    · simp [makeDirectory, hasDirectory, hlocate, hkind]
  cases hfails with
  | refused hfault =>
      obtain ⟨other, hother⟩ := Path.fault?_append hfault rest
      rw [on_attemptDirectory, hother]
      exact ⟨_, rfl⟩
  | occupied hlocate hentry =>
      by_cases hrest : rest = []
      · subst hrest
        rw [List.append_nil, on_attemptDirectory]
        split
        · exact ⟨_, rfl⟩
        · simp [makeDirectory, hasDirectory_eq_of_kind?, hlocate, hentry,
            kind?_eq_file_iff.mpr hentry]
      · rcases locate_append_of_file hlocate hentry hrest with hnext | hnext
        · exact hbarred _ (by decide) hnext
        · exact hbarred _ (by decide) hnext
  | barred hlocate hkind =>
      rcases locate_append_of_error hlocate rest with hnext | hnext
      · exact hbarred _ (by decide) hnext
      · exact hbarred _ hkind hnext

/-- How making a directory and those above it ends, and the tree that it leaves. -/
inductive Made (path : Path) (before : FileTree start) :
    Except Interruption Unit → FileTree start → Prop
  | done {after : FileTree start} (hopens : Opens path after) (hgrows : Grows path before after) :
      Made path before (.ok ()) after
  | stopped {front : List RawText} {interruption : Interruption} {after : FileTree start}
      (hbegins : front <+: path.components)
      (hfails : Attempted ⟨path.root, front⟩ after (.error interruption) after)
      (hgrows : Grows path before after) : Made path before (.error interruption) after

/-- One directory is made when none is missing above it. -/
theorem requireDirectory_made (hlocate : before.locate path ≠ .error .notFound) :
    Made path before (FileAction.on (requireDirectory path) before).1
      (FileAction.on (requireDirectory path) before).2 := by
  have hattempted := attemptDirectory_attempted path before
  rw [on_requireDirectory]
  cases hon : FileAction.on (attemptDirectory path) before with
  | mk result after =>
      rw [hon] at hattempted
      have hgrows := hattempted.grows
      cases result with
      | ok failed =>
          cases failed with
          | none => exact .done hattempted.opens hgrows
          | some error =>
              cases hattempted with
              | missing _ hmissing => exact absurd hmissing hlocate
      | error interruption =>
          obtain rfl : after = before := by cases hattempted <;> rfl
          exact .stopped List.prefix_rfl hattempted hgrows

/-- A directory is made behind those above it. -/
theorem Made.next {action : FileAction (StateM (FileTree start)) Unit}
    (hmade : Made ⟨root, components⟩ before (action.on before).1 (action.on before).2)
    (component : RawText) :
    Made ⟨root, components ++ [component]⟩ before
      (FileAction.on (do action; requireDirectory ⟨root, components ++ [component]⟩) before).1
      (FileAction.on (do action; requireDirectory ⟨root, components ++ [component]⟩) before).2 := by
  have hlonger : components <+: components ++ [component] := List.prefix_append _ _
  rw [FileAction.on_bind]
  cases hon : action.on before with
  | mk result middle =>
      rw [hon] at hmade
      cases hmade with
      | stopped hbegins hfails hgrows =>
          exact .stopped (hbegins.trans hlonger) hfails (hgrows.of_prefix hlonger)
      | done hopens hgrows =>
          have hnext := requireDirectory_made (hopens.locate_ne_notFound component)
          have hgrows := hgrows.of_prefix hlonger
          dsimp only
          generalize FileAction.on (requireDirectory ⟨root, components ++ [component]⟩) middle =
            last at hnext ⊢
          obtain ⟨result, after⟩ := last
          cases hnext with
          | done hopens' hgrows' => exact .done hopens' (hgrows.trans hgrows')
          | stopped hbegins hfails hgrows' => exact .stopped hbegins hfails (hgrows.trans hgrows')

theorem makeDirectoriesTo_made (path : Path) (before : FileTree start) {count : Nat}
    (hcount : count ≤ path.components.length) :
    Made ⟨path.root, path.components.take count⟩ before
      (FileAction.on (makeDirectoriesTo path count) before).1
      (FileAction.on (makeDirectoriesTo path count) before).2 := by
  induction count with
  | zero =>
      apply requireDirectory_made
      rw [locate]
      split <;> simp [walk]
  | succ count ih =>
      obtain ⟨component, htake⟩ : ∃ component,
          path.components.take (count + 1) = path.components.take count ++ [component] :=
        ⟨_, List.take_succ_eq_append_getElem hcount⟩
      have hattempted :=
        attemptDirectory_attempted ⟨path.root, path.components.take (count + 1)⟩ before
      rw [makeDirectoriesTo, FileAction.on_bind]
      cases hon : FileAction.on
          (attemptDirectory ⟨path.root, path.components.take (count + 1)⟩) before with
      | mk result after =>
          rw [hon] at hattempted
          have hgrows := hattempted.grows
          cases result with
          | error interruption =>
              obtain rfl : after = before := by cases hattempted <;> rfl
              exact .stopped List.prefix_rfl hattempted hgrows
          | ok failed =>
              cases failed with
              | none => exact .done hattempted.opens hgrows
              | some error =>
                  -- Something above is missing, and nothing has been changed so far.
                  obtain rfl : after = before := by
                    cases hattempted
                    rfl
                  dsimp only
                  rw [htake]
                  exact (ih (Nat.le_of_succ_le hcount)).next component

/-- Making a directory with those above it ends with the path leading to a directory, or at
a prefix of the path that cannot become one. -/
theorem makeDirectories_made (path : Path) (before : FileTree start) :
    Made path before (FileAction.on (makeDirectories path) before).1
      (FileAction.on (makeDirectories path) before).2 := by
  have hmade := makeDirectoriesTo_made path before (Nat.le_refl _)
  rw [List.take_length] at hmade
  exact hmade

/-- The directory itself is attempted first, and that decides unless one above it is missing. -/
theorem on_makeDirectories_of_attempt {first : Except Interruption (Option OsError)}
    (hfirst : FileAction.on (attemptDirectory path) tree = (first, after))
    (hdecides : ∀ error, first ≠ .ok (some error)) :
    FileAction.on (makeDirectories path) tree = (first.map fun _ => (), after) := by
  obtain ⟨root, components⟩ := path
  rcases List.eq_nil_or_concat' components with rfl | ⟨front, last, rfl⟩
  · change FileAction.on (requireDirectory ⟨root, []⟩) tree = _
    rw [on_requireDirectory, hfirst]
    rcases first with interruption | failed
    · rfl
    · cases failed with
      | none => rfl
      | some error => exact absurd rfl (hdecides error)
  · have htake : (front ++ [last]).take (front.length + 1) = front ++ [last] :=
      List.take_of_length_le (by simp)
    rw [makeDirectories, List.length_append, List.length_singleton, makeDirectoriesTo, htake,
      FileAction.on_bind, hfirst]
    rcases first with interruption | failed
    · rfl
    · cases failed with
      | none => rfl
      | some error => exact absurd rfl (hdecides error)

/-- Where there is a directory already, nothing is made. -/
theorem makeDirectories_of_opens (hopens : Opens path tree) :
    FileAction.on (makeDirectories path) tree = (.ok (), tree) :=
  on_makeDirectories_of_attempt (attemptDirectory_of_opens hopens) (by simp)

/-- Making directories again, after it has failed, fails and changes nothing. -/
theorem makeDirectories_again
    (herror : FileAction.on (makeDirectories path) before = (.error interruption, after)) :
    ∃ other, FileAction.on (makeDirectories path) after = (.error other, after) := by
  have hmade := makeDirectories_made path before
  rw [herror] at hmade
  cases hmade with
  | stopped hbegins hfails _ =>
      obtain ⟨other, hother⟩ := attemptDirectory_error_of_prefix hfails hbegins
      exact ⟨other, on_makeDirectories_of_attempt hother (by simp)⟩

end ActionHandler.Files
