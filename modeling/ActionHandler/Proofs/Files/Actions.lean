import ActionHandler.Files.FileSystem

/-! # File actions on trees

What a step that works with files does to a file tree: the result that it ends with, and
the tree that it leaves behind. A step that fails leaves the changes that were made before.
-/

namespace ActionHandler.Files

open Text (RawText)

namespace FileAction

variable {α β : Type} {start : Location}

/-- The result of a step on a file tree, and the tree that it leaves. -/
def on (action : FileAction (StateM (FileTree start)) α) (tree : FileTree start) :
    Except Interruption α × FileTree start :=
  action.run.run tree

/-- What is done with the result of a step is done on the tree that it leaves. -/
theorem run_bind (action : FileAction (StateM (FileTree start)) α)
    (next : Except Interruption α → StateM (FileTree start) β) (tree : FileTree start) :
    StateT.run (action.run >>= next) tree =
      StateT.run (next (action.on tree).1) (action.on tree).2 :=
  rfl

@[simp] theorem on_pure (value : α) (tree : FileTree start) :
    (pure value : FileAction (StateM (FileTree start)) α).on tree = (.ok value, tree) :=
  rfl

@[simp] theorem on_throw (interruption : Interruption) (tree : FileTree start) :
    (throw interruption : FileAction (StateM (FileTree start)) α).on tree =
      (.error interruption, tree) :=
  rfl

@[simp] theorem on_mk_pure (result : Except Interruption α) (tree : FileTree start) :
    on (ExceptT.mk (pure result)) tree = (result, tree) :=
  rfl

theorem on_bind (first : FileAction (StateM (FileTree start)) α)
    (next : α → FileAction (StateM (FileTree start)) β) (tree : FileTree start) :
    (first >>= next).on tree =
      match first.on tree with
      | (.error interruption, after) => (.error interruption, after)
      | (.ok value, after) => (next value).on after := by
  change StateT.run (ExceptT.run (first >>= next)) tree = _
  rw [ExceptT.run_bind, StateT.run_bind]
  unfold on
  cases first.run.run tree with
  | mk result after => cases result <;> rfl

/-- Two steps end well when the first one does, and the second one on the tree that it leaves. -/
theorem on_bind_eq_ok_iff {first : FileAction (StateM (FileTree start)) α}
    {next : α → FileAction (StateM (FileTree start)) β} {tree after : FileTree start} {result : β} :
    (first >>= next).on tree = (.ok result, after) ↔
      ∃ value middle, first.on tree = (.ok value, middle) ∧
        (next value).on middle = (.ok result, after) := by
  rw [on_bind]
  cases first.on tree with
  | mk ended middle => cases ended <;> simp [and_assoc]

/-- Two steps end early when the first one does, or the second one on the tree that the first
one leaves. -/
theorem on_bind_eq_error_iff {first : FileAction (StateM (FileTree start)) α}
    {next : α → FileAction (StateM (FileTree start)) β} {tree after : FileTree start}
    {interruption : Interruption} :
    (first >>= next).on tree = (.error interruption, after) ↔
      first.on tree = (.error interruption, after) ∨
        ∃ value middle, first.on tree = (.ok value, middle) ∧
          (next value).on middle = (.error interruption, after) := by
  rw [on_bind]
  cases first.on tree with
  | mk ended middle => cases ended <;> simp [and_assoc]

/-- That a step relates every tree to the one that it leaves. -/
def Respects (relation : FileTree start → FileTree start → Prop)
    (action : FileAction (StateM (FileTree start)) α) : Prop :=
  ∀ tree, relation tree (action.on tree).2

namespace Respects

variable {relation : FileTree start → FileTree start → Prop}

theorem of_leaving {action : FileAction (StateM (FileTree start)) α}
    (hrefl : ∀ tree, relation tree tree) (hleaves : ∀ tree, (action.on tree).2 = tree) :
    Respects relation action := by
  intro tree
  rw [hleaves]
  exact hrefl tree

theorem bind {first : FileAction (StateM (FileTree start)) α}
    {next : α → FileAction (StateM (FileTree start)) β}
    (htrans : ∀ before middle after, relation before middle → relation middle after →
      relation before after)
    (hfirst : Respects relation first) (hnext : ∀ value, Respects relation (next value)) :
    Respects relation (first >>= next) := by
  intro tree
  have hrelated := hfirst tree
  rw [on_bind]
  cases hon : first.on tree with
  | mk result middle =>
      rw [hon] at hrelated
      cases result with
      | error interruption => exact hrelated
      | ok value => exact htrans _ _ _ hrelated (hnext value middle)

end Respects

end FileAction

open FileAction

variable {start : Location} {tree : FileTree start}

theorem on_requireNoFault (path : Path) (tree : FileTree start) :
    FileAction.on (requireNoFault path) tree =
      match path.fault? with
      | some fault => (.error (.fault fault), tree)
      | none => (.ok (), tree) := by
  unfold requireNoFault
  cases path.fault? <;> rfl

theorem on_demand {α : Type} (answer : StateM (FileTree start) (Except OsError α))
    (tree : FileTree start) :
    FileAction.on (demand answer) tree =
      match answer.run tree with
      | (.error error, after) => (.error (.system error), after)
      | (.ok value, after) => (.ok value, after) := by
  change StateT.run (ExceptT.run (demand answer)) tree = _
  rw [demand, ExceptT.run_mk, StateT.run_bind]
  cases answer.run tree with
  | mk result after => cases result <;> rfl

theorem on_loadText (path : Path) (tree : FileTree start) :
    FileAction.on (loadText path) tree =
      match path.fault? with
      | some fault => (.error (.fault fault), tree)
      | none =>
          match tree.read path with
          | .error error => (.error (.system error), tree)
          | .ok bytes => (decodeText bytes, tree) := by
  have hread : StateT.run (FileSystem.read path : StateM (FileTree start) _) tree =
      (tree.read path, tree) := rfl
  rw [loadText, on_bind, on_requireNoFault]
  cases path.fault? with
  | some fault => rfl
  | none =>
      simp only [on_bind, on_demand, hread]
      cases tree.read path <;> rfl

/-- Reading a text changes nothing. -/
theorem loadText_leaves (path : Path) (tree : FileTree start) :
    (FileAction.on (loadText path) tree).2 = tree := by
  rw [on_loadText]
  cases path.fault? with
  | some fault => rfl
  | none => cases tree.read path <;> rfl

theorem run_update (change : FileTree start → Except OsError (FileTree start))
    (tree : FileTree start) :
    StateT.run (FileTree.update change) tree =
      match change tree with
      | .error error => (.error error, tree)
      | .ok after => (.ok (), after) := by
  change StateT.run (get >>= _) tree = _
  rw [StateT.run_bind]
  cases hchange : change tree <;> simp [hchange] <;> rfl

theorem on_write (path : Path) (bytes : List UInt8) (tree : FileTree start) :
    FileAction.on (demand (FileSystem.write path bytes)) tree =
      match tree.write path bytes with
      | .error error => (.error (.system error), tree)
      | .ok after => (.ok (), after) := by
  change FileAction.on (demand (FileTree.update _)) tree = _
  rw [on_demand, run_update]
  cases tree.write path bytes <;> rfl

/-- What is left of a text that cannot be encoded is an empty file, if it can be opened. -/
theorem on_writeText (path : Path) (text : RawText) (tree : FileTree start) :
    FileAction.on (writeText path text) tree =
      match path.fault?, text.encode with
      | some fault, _ => (.error (.fault fault), tree)
      | none, .ok bytes =>
          match tree.write path bytes with
          | .error error => (.error (.system error), tree)
          | .ok after => (.ok (), after)
      | none, .error error =>
          match tree.write path [] with
          | .error other => (.error (.system other), tree)
          | .ok after => (.error (.fault (.unencodable error)), after) := by
  rw [writeText, on_bind, on_requireNoFault]
  cases path.fault? with
  | some fault => rfl
  | none =>
      cases text.encode with
      | ok bytes => exact on_write path bytes tree
      | error error =>
          simp only [on_bind, on_write]
          cases tree.write path [] <;> rfl

theorem on_attemptDirectory (path : Path) (tree : FileTree start) :
    FileAction.on (attemptDirectory path) tree =
      match path.fault? with
      | some fault => (.error (.fault fault), tree)
      | none =>
          match tree.makeDirectory path with
          | .ok after => (.ok none, after)
          | .error error =>
              if error.kind = .notFound then (.ok (some error), tree)
              else if tree.hasDirectory path then (.ok none, tree)
              else (.error (.system error), tree) := by
  rw [attemptDirectory, on_bind, on_requireNoFault]
  cases path.fault? with
  | some fault => rfl
  | none =>
      change StateT.run (FileTree.update (·.makeDirectory path) >>= _) tree = _
      rw [StateT.run_bind, run_update]
      cases tree.makeDirectory path with
      | ok after => rfl
      | error error =>
          change StateT.run (ite _ _ _) tree = ite _ _ _
          by_cases hmissing : error.kind = .notFound
          · rw [if_pos hmissing, if_pos hmissing]
            rfl
          · have hasked : StateT.run (FileSystem.hasDirectory path : StateM (FileTree start) Bool)
                tree = (tree.hasDirectory path, tree) := rfl
            rw [if_neg hmissing, if_neg hmissing, StateT.run_bind, hasked]
            cases tree.hasDirectory path <;> rfl

end ActionHandler.Files
