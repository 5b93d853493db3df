import ActionHandler.Proofs.Files.Kinds
import Mathlib.Data.List.Basic

/-! # Ways through trees

A way that leads somewhere passes through directories only, so it leads to the same place
in every tree that keeps them. Where it leads can be told from its components alone, and
without a double dot that place is the components, one after the other.
-/

namespace ActionHandler.Files

open Text (RawText)

/-- Where a component leads in a tree without links. -/
def leadOn (location : Location) (component : RawText) : Location :=
  if component = ".." then location.dropLast else location ++ [.ofText component]

/-- Where a path leads if it leads anywhere. -/
def Path.target (start : Location) (path : Path) : Location :=
  path.components.foldl leadOn (path.root.origin start)

/-- Without a double dot, each component leads one step further down. -/
theorem foldl_leadOn_eq_append {components : List RawText} (hparent : ↑".." ∉ components)
    (location : Location) :
    components.foldl leadOn location = location ++ components.map .ofText := by
  induction components generalizing location with
  | nil => simp
  | cons first rest ih =>
      have hfirst : first ≠ ".." := fun heq => hparent (by simp [heq])
      have hrest : ↑".." ∉ rest := fun hmem => hparent (List.mem_cons_of_mem first hmem)
      rw [List.foldl_cons, ih hrest, leadOn, if_neg hfirst, List.append_assoc,
        List.map_cons, List.singleton_append]

theorem Path.target_concat (start : Location) (root : Root) (components : List RawText)
    {component : RawText} (hparent : component ≠ "..") :
    target start ⟨root, components ++ [component]⟩ =
      target start ⟨root, components⟩ ++ [.ofText component] := by
  simp [target, leadOn, hparent]

/-- Without a double dot, a path leads to its components, one below the other. -/
theorem Path.target_of_not_mem {path : Path} (hparent : ↑".." ∉ path.components)
    (start : Location) :
    path.target start = path.root.origin start ++ path.components.map .ofText :=
  foldl_leadOn_eq_append hparent _

namespace FileTree

variable {start : Location} {tree before after : FileTree start} {location next : Location}
  {root : Root} {components : List RawText} {component : RawText}
  {entries : List (FileName × Entry)}

/-- From a directory, a step fails only because of a name that is too long. -/
theorem step_of_directory (hdirectory : tree.entry? location = some (.directory entries))
    (component : RawText) :
    tree.step location component =
      if nameLimit < component.bytes.length then .error .nameTooLong
      else .ok (if component = ".." then location.dropLast
        else location ++ [.ofText component]) := by
  rw [step, hdirectory]

/-- A step can be made from directories only. -/
theorem directory_of_step (hstep : tree.step location component = .ok next) :
    ∃ entries, tree.entry? location = some (.directory entries) := by
  unfold step at hstep
  split at hstep
  next => cases hstep
  next => cases hstep
  next entries hentry => exact ⟨entries, hentry⟩

/-- Where a step leads can be told from the component alone. -/
theorem eq_leadOn_of_step (hstep : tree.step location component = .ok next) :
    next = leadOn location component := by
  obtain ⟨entries, hdirectory⟩ := directory_of_step hstep
  rw [step_of_directory hdirectory] at hstep
  split at hstep
  next => cases hstep
  next => exact (Except.ok.inj hstep).symm

/-- A way in two parts goes on from where the first part leads. -/
theorem walk_append (tree : FileTree start) (location : Location) (components rest : List RawText) :
    tree.walk location (components ++ rest) =
      match tree.walk location components with
      | .error kind => .error kind
      | .ok next => tree.walk next rest := by
  induction components generalizing location with
  | nil => simp only [List.nil_append, walk]
  | cons first components ih =>
      simp only [List.cons_append, walk]
      cases tree.step location first with
      | error kind => rfl
      | ok middle => exact ih middle

theorem walk_concat (tree : FileTree start) (location : Location) (components : List RawText)
    (component : RawText) :
    tree.walk location (components ++ [component]) =
      match tree.walk location components with
      | .error kind => .error kind
      | .ok next => tree.step next component := by
  rw [walk_append]
  cases tree.walk location components with
  | error kind => rfl
  | ok next =>
      simp only [walk]
      cases tree.step next component <;> rfl

/-- Where a way leads can be told from its components alone. -/
theorem eq_foldl_of_walk (hwalk : tree.walk location components = .ok next) :
    next = components.foldl leadOn location := by
  induction components generalizing location with
  | nil => exact (Except.ok.inj hwalk).symm
  | cons first rest ih =>
      rw [walk] at hwalk
      cases hstep : tree.step location first with
      | error kind =>
          rw [hstep] at hwalk
          cases hwalk
      | ok middle =>
          rw [hstep] at hwalk
          rw [ih hwalk, eq_leadOn_of_step hstep, List.foldl_cons]

/-- That the directories of a tree are directories in another one. -/
def KeepsDirectories (before after : FileTree start) : Prop :=
  ∀ location, before.kind? location = some .directory → after.kind? location = some .directory

theorem KeepsDirectories.trans {middle : FileTree start} (hfirst : before.KeepsDirectories middle)
    (hsecond : middle.KeepsDirectories after) : before.KeepsDirectories after :=
  fun location hlocation => hsecond location (hfirst location hlocation)

/-- A tree that keeps all files and directories of another one keeps its directories. -/
theorem Keeps.keepsDirectories (hkeeps : before.Keeps after) : before.KeepsDirectories after := by
  intro location hlocation
  rw [kind?_eq_directory_iff] at hlocation ⊢
  obtain ⟨entries, hentries⟩ := hlocation
  exact hkeeps.directories location entries hentries

namespace KeepsDirectories

variable (hkeeps : before.KeepsDirectories after)
include hkeeps

/-- A step can be made in every tree that keeps the directories. -/
theorem step (hstep : before.step location component = .ok next) :
    after.step location component = .ok next := by
  obtain ⟨entries, hdirectory⟩ := directory_of_step hstep
  obtain ⟨others, hothers⟩ :=
    kind?_eq_directory_iff.mp (hkeeps location (kind?_eq_directory_iff.mpr ⟨entries, hdirectory⟩))
  rw [← hstep, step_of_directory hdirectory, step_of_directory hothers]

/-- Ways stay open in a tree that keeps the directories. -/
theorem walk (hwalk : before.walk location components = .ok next) :
    after.walk location components = .ok next := by
  induction components generalizing location with
  | nil => exact hwalk
  | cons first rest ih =>
      rw [FileTree.walk] at hwalk
      cases hstep : before.step location first with
      | error kind =>
          rw [hstep] at hwalk
          cases hwalk
      | ok middle =>
          rw [hstep] at hwalk
          rw [FileTree.walk, hkeeps.step hstep]
          exact ih hwalk

/-- A path leads to the same place in every tree that keeps the directories. -/
theorem locate {path : Path} (hlocate : before.locate path = .ok location) :
    after.locate path = .ok location := by
  unfold FileTree.locate at hlocate ⊢
  split at hlocate
  next => cases hlocate
  next hlimit => rw [if_neg hlimit, hkeeps.walk hlocate]

end KeepsDirectories

theorem walk_of_locate {path : Path} (hlocate : tree.locate path = .ok location) :
    tree.walk (path.root.origin start) path.components = .ok location := by
  unfold locate at hlocate
  split at hlocate
  next => cases hlocate
  next => exact hlocate

/-- A path that leads anywhere leads to its target. -/
theorem eq_target_of_locate {path : Path} (hlocate : tree.locate path = .ok location) :
    location = path.target start :=
  eq_foldl_of_walk (walk_of_locate hlocate)

/-- A path is located through the directory above its end. -/
theorem directory_of_locate
    (hlocate : tree.locate ⟨root, components ++ [component]⟩ = .ok location) :
    ∃ entries, tree.entry? (Path.target start ⟨root, components⟩) =
      some (.directory entries) := by
  have hwalk := walk_of_locate hlocate
  rw [walk_concat] at hwalk
  cases habove : tree.walk (root.origin start) components with
  | error kind =>
      rw [habove] at hwalk
      cases hwalk
  | ok above =>
      rw [habove] at hwalk
      obtain rfl := eq_foldl_of_walk habove
      exact directory_of_step hwalk

/-- What a path leads to is a directory, or directly below a directory. -/
theorem cases_of_locate {path : Path} (hlocate : tree.locate path = .ok location) :
    tree.kind? location = some .directory ∨
      ∃ above name, location = above ++ [name] ∧ tree.kind? above = some .directory := by
  obtain ⟨root, components⟩ := path
  obtain rfl := eq_target_of_locate hlocate
  rcases List.eq_nil_or_concat' components with rfl | ⟨front, last, rfl⟩
  · exact .inl (tree.kind?_origin root)
  · have hdirectory := kind?_eq_directory_iff.mpr (directory_of_locate hlocate)
    by_cases hlast : last = ".."
    · -- A double dot leads back to a directory that has been passed already.
      left
      rw [Path.target, List.foldl_concat, leadOn, if_pos hlast]
      change tree.kind? (Path.target start ⟨root, front⟩).dropLast = _
      rcases List.eq_nil_or_concat' (Path.target start ⟨root, front⟩) with htop | ⟨_, name, habove⟩
      · rw [htop]
        exact tree.kind?_nil
      · rw [habove] at hdirectory ⊢
        rw [List.dropLast_concat]
        exact directory_above (List.cons_ne_nil name []) (by simp [hdirectory])
    · exact .inr ⟨_, _, Path.target_concat start root front hlast, hdirectory⟩

/-- From a directory, one more component leads on, unless it or the path becomes too long. -/
theorem locate_below (hlocate : tree.locate ⟨root, components⟩ = .ok location)
    (hdirectory : tree.entry? location = some (.directory entries)) (hparent : component ≠ "..") :
    tree.locate ⟨root, components ++ [component]⟩ = .error .nameTooLong ∨
      tree.locate ⟨root, components ++ [component]⟩ = .ok (location ++ [.ofText component]) := by
  rw [locate, walk_concat, walk_of_locate hlocate]
  simp only [step_of_directory hdirectory, if_neg hparent]
  split
  next => exact .inl rfl
  next =>
      split
      next => exact .inl rfl
      next => exact .inr rfl

/-- A file or an empty directory that is put where a path leads, and no directory is, changes
what stands there and nothing else. -/
theorem kind?_put_of_locate {path : Path} {entry : Entry}
    (hleaf : ∀ rest, rest ≠ [] → entry.kind? rest = none)
    (hlocate : tree.locate path = .ok location)
    (hplace : tree.kind? location ≠ some .directory) (other : Location) :
    (tree.put location entry).kind? other =
      if other = location then some entry.kind else tree.kind? other := by
  rw [kind?_put_eq hplace]
  rcases cases_of_locate hlocate with hdirectory | ⟨above, name, rfl, habove⟩
  · exact absurd hdirectory hplace
  · exact Entry.kind?_put hleaf habove hplace other

end FileTree

end ActionHandler.Files
