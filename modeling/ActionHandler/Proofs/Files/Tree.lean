import ActionHandler.Files.FileTree

/-! # Entries of changed trees

An entry that is put under a name is found under it, and all other names lead where they
did. So a directory put where nothing was leaves all files as they are, and all ways
through the tree stay open. What is put where no directory is leaves the working directory
in its place, so it changes the entries of the tree and nothing else of it.
-/

namespace ActionHandler.Files

namespace Entry

variable {top before after : Entry} {location place : Location}

theorem lookup_cons_eq_ite (name head : FileName) (entry : Entry)
    (rest : List (FileName × Entry)) :
    ((head, entry) :: rest).lookup name = if name = head then some entry else rest.lookup name := by
  by_cases hhead : name = head
  · simp [hhead]
  · have hbeq : (name == head) = false := by simpa using hhead
    rw [List.lookup_cons, hbeq, if_neg hhead]

/-- Under a name there is what was put there last, and under all others what was there. -/
theorem lookup_putEntry (name other : FileName) (entry : Entry)
    (entries : List (FileName × Entry)) :
    (putEntry name entry entries).lookup other =
      if other = name then some entry else entries.lookup other := by
  induction entries with
  | nil => rw [putEntry, lookup_cons_eq_ite]
  | cons first rest ih =>
      obtain ⟨head, subtree⟩ := first
      by_cases hhead : head = name
      · subst hhead
        rw [putEntry, if_pos rfl, lookup_cons_eq_ite, lookup_cons_eq_ite]
        split <;> rfl
      · rw [putEntry, if_neg hhead, lookup_cons_eq_ite, lookup_cons_eq_ite, ih]
        by_cases hother : other = head
        · subst hother
          rw [if_pos rfl, if_neg hhead, if_pos rfl]
        · rw [if_neg hother, if_neg hother]

@[simp] theorem entry?_nil (top : Entry) : top.entry? [] = some top := by
  cases top <;> rfl

/-- A location is followed from the top down. -/
theorem entry?_directory_cons (entries : List (FileName × Entry)) (name : FileName)
    (rest : Location) :
    entry? (directory entries) (name :: rest) =
      entries.lookup name >>= fun child => child.entry? rest := by
  rw [ entry?, child?]
  cases entries.lookup name <;> rfl

/-- An entry is found by going on from any entry on the way to it. -/
theorem entry?_append (top : Entry) (location rest : Location) :
    top.entry? (location ++ rest) =
      top.entry? location >>= fun child => child.entry? rest := by
  induction location generalizing top with
  | nil => simp
  | cons name location ih =>
      cases top with
      | file bytes => rfl
      | directory entries =>
          rw [List.cons_append, entry?_directory_cons, entry?_directory_cons]
          cases entries.lookup name with
          | none => rfl
          | some child => exact ih child

/-- What is put further down is put into a child, if the child is there. -/
theorem put_cons_of_ne_nil {rest : Location} (hrest : rest ≠ []) (name : FileName)
    (entries : List (FileName × Entry)) (entry : Entry) :
    (directory entries).put (name :: rest) entry =
      match entries.lookup name with
      | none => directory entries
      | some child => directory (putEntry name (child.put rest entry) entries) := by
  cases rest with
  | nil => exact absurd rfl hrest
  | cons next rest =>
      cases hlookup : entries.lookup name with
      | none => rw [put, hlookup]
      | some child => rw [put, hlookup]

/-- What is put into a directory that is there is found there. -/
theorem entry?_put_self {name : FileName} {entries : List (FileName × Entry)}
    (hdirectory : top.entry? location = some (directory entries)) (entry : Entry) :
    entry? (top.put (location ++ [name]) entry) (location ++ [name]) = some entry := by
  induction location generalizing top with
  | nil =>
      rw [entry?_nil, Option.some.injEq] at hdirectory
      subst hdirectory
      simp [put, entry?_directory_cons, lookup_putEntry]
  | cons first location ih =>
      cases top with
      | file bytes => cases hdirectory
      | directory others =>
          rw [entry?_directory_cons] at hdirectory
          obtain ⟨child, hchild, hrest⟩ := Option.bind_eq_some_iff.mp hdirectory
          rw [List.cons_append, put_cons_of_ne_nil (by simp), hchild]
          rw [entry?_directory_cons, lookup_putEntry, if_pos rfl]
          exact ih hrest

/-- Of two entries that are put under one name the second counts. -/
theorem putEntry_putEntry (name : FileName) (first second : Entry)
    (entries : List (FileName × Entry)) :
    putEntry name second (putEntry name first entries) = putEntry name second entries := by
  induction entries with
  | nil => simp [putEntry]
  | cons head rest ih =>
      obtain ⟨other, subtree⟩ := head
      by_cases hother : other = name
      · simp [putEntry, hother]
      · simp [putEntry, hother, ih]

/-- An entry that is put where it stands changes nothing. -/
theorem putEntry_self {name : FileName} {entry : Entry} {entries : List (FileName × Entry)}
    (hentry : entries.lookup name = some entry) : putEntry name entry entries = entries := by
  induction entries with
  | nil => cases hentry
  | cons head rest ih =>
      obtain ⟨other, subtree⟩ := head
      rw [lookup_cons_eq_ite] at hentry
      by_cases hother : other = name
      · rw [if_pos hother.symm, Option.some.injEq] at hentry
        rw [putEntry, if_pos hother, hentry]
      · rw [if_neg (Ne.symm hother)] at hentry
        rw [putEntry, if_neg hother, ih hentry]

/-- Entries that stand under two names can be replaced in either order. -/
theorem putEntry_comm {name name' : FileName} {old old' : Entry}
    {entries : List (FileName × Entry)} (hname : name ≠ name')
    (hold : entries.lookup name = some old) (hold' : entries.lookup name' = some old')
    (entry entry' : Entry) :
    putEntry name' entry' (putEntry name entry entries) =
      putEntry name entry (putEntry name' entry' entries) := by
  induction entries with
  | nil => cases hold
  | cons head rest ih =>
      obtain ⟨other, subtree⟩ := head
      rw [lookup_cons_eq_ite] at hold hold'
      by_cases hother : other = name
      · subst hother
        simp [putEntry, hname]
      · by_cases hother' : other = name'
        · subst hother'
          simp [putEntry, hother]
        · rw [if_neg (Ne.symm hother)] at hold
          rw [if_neg (Ne.symm hother')] at hold'
          simp [putEntry, hother, hother', ih hold hold']

/-- What is put below a child that is there changes that child. -/
theorem put_cons_of_lookup {name : FileName} {entries : List (FileName × Entry)}
    {child : Entry} (hchild : entries.lookup name = some child) (rest : Location)
    (entry : Entry) :
    (directory entries).put (name :: rest) entry =
      directory (putEntry name (child.put rest entry) entries) := by
  cases rest with
  | nil => simp [put]
  | cons next rest => rw [put_cons_of_ne_nil (by simp), hchild]

section Replacing

variable {old old' : Entry} {location' : Location}

/-- Below a directory, an entry is one of an entry of the directory. -/
theorem exists_child {name : FileName} {rest : Location}
    (hentry : top.entry? (name :: rest) = some old) :
    ∃ entries child, top = directory entries ∧ entries.lookup name = some child ∧
      child.entry? rest = some old := by
  cases top with
  | file bytes => cases hentry
  | directory entries =>
      rw [entry?_directory_cons] at hentry
      obtain ⟨child, hchild, hrest⟩ := Option.bind_eq_some_iff.mp hentry
      exact ⟨entries, child, rfl, hchild, hrest⟩

/-- Of two entries that are put into the same place, the second one counts. -/
theorem put_put (hentry : top.entry? location = some old) (first second : Entry) :
    (top.put location first).put location second = top.put location second := by
  induction location generalizing top with
  | nil => simp [put]
  | cons name rest ih =>
      obtain ⟨entries, child, rfl, hchild, hrest⟩ := exists_child hentry
      have hput : (putEntry name (child.put rest first) entries).lookup name =
          some (child.put rest first) := by
        rw [lookup_putEntry, if_pos rfl]
      rw [put_cons_of_lookup hchild, put_cons_of_lookup hput, put_cons_of_lookup hchild,
        ih hrest, putEntry_putEntry]

/-- An entry that is put where it is already changes nothing. -/
theorem put_self (hentry : top.entry? location = some old) : top.put location old = top := by
  induction location generalizing top with
  | nil => simpa [put] using hentry.symm
  | cons name rest ih =>
      obtain ⟨entries, child, rfl, hchild, hrest⟩ := exists_child hentry
      rw [put_cons_of_lookup hchild, ih hrest, putEntry_self hchild]

/-- Two files can be replaced in either order. -/
theorem put_comm {bytes bytes' : List UInt8} (hlocation : location ≠ location')
    (hfile : top.entry? location = some (.file bytes))
    (hfile' : top.entry? location' = some (.file bytes')) (first second : Entry) :
    (top.put location first).put location' second =
      (top.put location' second).put location first := by
  induction location generalizing top location' with
  | nil =>
      -- The entry is a file, so there is no place for another one.
      rw [entry?_nil, Option.some.injEq] at hfile
      subst hfile
      cases location' with
      | nil => exact absurd rfl hlocation
      | cons => cases hfile'
  | cons name rest ih =>
      obtain ⟨entries, child, rfl, hchild, hrest⟩ := exists_child hfile
      cases location' with
      | nil => simp at hfile'
      | cons name' rest' =>
          obtain ⟨_, child', heq, hchild', hrest'⟩ := exists_child hfile'
          cases heq
          by_cases hname : name = name'
          · subst hname
            obtain rfl : child = child' := Option.some.inj (hchild.symm.trans hchild')
            have hother : rest ≠ rest' := fun heq => hlocation (congrArg _ heq)
            rw [put_cons_of_lookup hchild, put_cons_of_lookup hchild,
              put_cons_of_lookup (by rw [lookup_putEntry, if_pos rfl]),
              put_cons_of_lookup (by rw [lookup_putEntry, if_pos rfl]), putEntry_putEntry,
              putEntry_putEntry, ih hother hrest hrest']
          · have hkept : (putEntry name (child.put rest first) entries).lookup name' =
                some child' := by
              rw [lookup_putEntry, if_neg (Ne.symm hname), hchild']
            have hkept' : (putEntry name' (child'.put rest' second) entries).lookup name =
                some child := by
              rw [lookup_putEntry, if_neg hname, hchild]
            rw [put_cons_of_lookup hchild, put_cons_of_lookup hkept, put_cons_of_lookup hchild',
              put_cons_of_lookup hkept', putEntry_comm hname hchild hchild']

end Replacing

/-- That all files below an entry are below another one, with the same bytes, and no other ones,
and that all directories below the first are directories below the other one. -/
structure Keeps (before after : Entry) : Prop where
  files (location : Location) (bytes : List UInt8) :
    before.entry? location = some (.file bytes) ↔ after.entry? location = some (.file bytes)
  directories (location : Location) (entries : List (FileName × Entry)) :
    before.entry? location = some (.directory entries) →
      ∃ others, after.entry? location = some (.directory others)

namespace Keeps

theorem refl (top : Entry) : top.Keeps top where
  files _ _ := .rfl
  directories _ entries hentry := ⟨entries, hentry⟩

theorem trans {middle : Entry} (hfirst : before.Keeps middle) (hsecond : middle.Keeps after) :
    before.Keeps after where
  files location bytes := (hfirst.files location bytes).trans (hsecond.files location bytes)
  directories location entries hentry := by
    obtain ⟨others, hothers⟩ := hfirst.directories location entries hentry
    exact hsecond.directories location others hothers

/-- What keeps the files of a child keeps those of the directory that it is in. -/
theorem of_child {name : FileName} {entries : List (FileName × Entry)} {child child' : Entry}
    (hchild : entries.lookup name = some child) (hkeeps : child.Keeps child') :
    (directory entries).Keeps (directory (putEntry name child' entries)) where
  files location bytes := by
    cases location with
    | nil => simp
    | cons first rest =>
        rw [entry?_directory_cons, entry?_directory_cons, lookup_putEntry]
        by_cases hfirst : first = name
        · subst hfirst
          rw [if_pos rfl, hchild]
          exact hkeeps.files rest bytes
        · rw [if_neg hfirst]
  directories location others hentry := by
    cases location with
    | nil => exact ⟨_, entry?_nil _⟩
    | cons first rest =>
        rw [entry?_directory_cons] at hentry ⊢
        rw [lookup_putEntry]
        by_cases hfirst : first = name
        · subst hfirst
          rw [hchild] at hentry
          rw [if_pos rfl]
          exact hkeeps.directories rest others hentry
        · rw [if_neg hfirst]
          exact ⟨others, hentry⟩

/-- An empty directory under a new name keeps all files. -/
theorem of_new {name : FileName} {entries : List (FileName × Entry)}
    (hname : entries.lookup name = none) :
    (directory entries).Keeps (directory (putEntry name .empty entries)) where
  files location bytes := by
    cases location with
    | nil => simp
    | cons first rest =>
        rw [entry?_directory_cons, entry?_directory_cons, lookup_putEntry]
        by_cases hfirst : first = name
        · subst hfirst
          rw [if_pos rfl, hname]
          cases rest <;> simp [empty, entry?_directory_cons]
        · rw [if_neg hfirst]
  directories location others hentry := by
    cases location with
    | nil => exact ⟨_, entry?_nil _⟩
    | cons first rest =>
        rw [entry?_directory_cons] at hentry ⊢
        have hfirst : first ≠ name := by
          rintro rfl
          rw [hname] at hentry
          cases hentry
        rw [lookup_putEntry, if_neg hfirst]
        exact ⟨others, hentry⟩

/-- Files and directories are kept when an empty directory is put where nothing was. -/
theorem put_empty (hentry : top.entry? location = none) :
    top.Keeps (top.put location .empty) := by
  -- The way down to the new directory leads to a missing name in some directory, or ends at a
  -- file or a missing directory above it, where nothing is put.
  induction location generalizing top with
  | nil => simp at hentry
  | cons name rest ih =>
      cases top with
      | file bytes => exact refl _
      | directory entries =>
          rw [entry?_directory_cons] at hentry
          by_cases hrest : rest = []
          · subst hrest
            cases hlookup : entries.lookup name with
            | none => exact of_new hlookup
            | some child => simp [hlookup] at hentry
          · rw [put_cons_of_ne_nil hrest]
            cases hlookup : entries.lookup name with
            | none => exact refl _
            | some child =>
                rw [hlookup] at hentry
                exact of_child hlookup (ih hentry)

end Keeps

/-- The check for a directory is a search for an entry that is one. -/
theorem isDirectoryAt_eq_true_iff :
    top.isDirectoryAt location = true ↔
      ∃ entries, top.entry? location = some (.directory entries) := by
  unfold isDirectoryAt
  cases top.entry? location with
  | none => simp
  | some entry => cases entry <;> simp [isDirectory]

theorem isDirectoryAt_directory_cons (entries : List (FileName × Entry)) (name : FileName)
    (rest : Location) :
    (directory entries).isDirectoryAt (name :: rest) =
      match entries.lookup name with
      | none => false
      | some child => child.isDirectoryAt rest := by
  rw [isDirectoryAt, entry?_directory_cons]
  cases entries.lookup name <;> rfl

/-- Directories stay where they are when something is put where none of them is. -/
theorem isDirectoryAt_put (hplace : top.isDirectoryAt place = false)
    (hlocation : top.isDirectoryAt location = true) (entry : Entry) :
    (top.put place entry).isDirectoryAt location = true := by
  induction place generalizing top location with
  | nil =>
      -- A file takes the whole place, and no directory is below it.
      cases top with
      | directory => cases hplace
      | file => cases location <;> cases hlocation
  | cons name rest ih =>
      cases top with
      | file => exact hlocation
      | directory entries =>
          rw [isDirectoryAt_directory_cons] at hplace
          cases hchild : entries.lookup name with
          | some child =>
              rw [hchild] at hplace
              rw [put_cons_of_lookup hchild]
              cases location with
              | nil => rfl
              | cons first others =>
                  rw [isDirectoryAt_directory_cons] at hlocation ⊢
                  rw [lookup_putEntry]
                  by_cases hfirst : first = name
                  · subst hfirst
                    rw [hchild] at hlocation
                    rw [if_pos rfl]
                    exact ih hplace hlocation
                  · rwa [if_neg hfirst]
          | none =>
              by_cases hrest : rest = []
              · subst hrest
                cases location with
                | nil => rfl
                | cons first others =>
                    rw [isDirectoryAt_directory_cons] at hlocation
                    have hfirst : first ≠ name := by
                      rintro rfl
                      rw [hchild] at hlocation
                      cases hlocation
                    rwa [put, isDirectoryAt_directory_cons, lookup_putEntry, if_neg hfirst]
              · rwa [put_cons_of_ne_nil hrest, hchild]

end Entry

namespace FileTree

variable {start location : Location} {tree before after : FileTree start}

/-- Trees with the same entries are the same. -/
theorem ext_top {first second : FileTree start} (htop : first.top = second.top) :
    first = second := by
  cases first
  cases second
  cases htop
  rfl

/-- What is put where no directory is, is put among the entries of a tree. -/
theorem top_put (hplace : tree.top.isDirectoryAt location = false) (entry : Entry) :
    (tree.put location entry).top = tree.top.put location entry := by
  rw [put, dif_pos (Entry.isDirectoryAt_put hplace tree.isDirectoryAt_start entry)]

/-- A place with a file is no directory. -/
theorem isDirectoryAt_of_file {bytes : List UInt8}
    (hfile : tree.entry? location = some (.file bytes)) :
    tree.top.isDirectoryAt location = false := by
  unfold entry? at hfile
  rw [Entry.isDirectoryAt, hfile]
  rfl

/-- A place without an entry is no directory. -/
theorem isDirectoryAt_of_none (hentry : tree.entry? location = none) :
    tree.top.isDirectoryAt location = false := by
  unfold entry? at hentry
  rw [Entry.isDirectoryAt, hentry]

@[simp] theorem entry?_nil (tree : FileTree start) : tree.entry? [] = some tree.top :=
  Entry.entry?_nil tree.top

theorem entry?_append (tree : FileTree start) (location rest : Location) :
    tree.entry? (location ++ rest) =
      tree.entry? location >>= fun child => child.entry? rest :=
  tree.top.entry?_append location rest

/-- What is put under a new name into a directory that is there is found there. -/
theorem entry?_put_self {name : FileName} {entries : List (FileName × Entry)}
    (hdirectory : tree.entry? location = some (.directory entries))
    (hnothing : tree.entry? (location ++ [name]) = none) (entry : Entry) :
    entry? (tree.put (location ++ [name]) entry) (location ++ [name]) = some entry := by
  unfold entry?
  rw [top_put (isDirectoryAt_of_none hnothing)]
  exact Entry.entry?_put_self hdirectory entry

/-- That all files of a tree are in another one, with the same bytes, and no other ones, and that
all directories of the tree are directories in the other one. -/
def Keeps (before after : FileTree start) : Prop :=
  before.top.Keeps after.top

namespace Keeps

theorem refl (tree : FileTree start) : tree.Keeps tree :=
  Entry.Keeps.refl tree.top

theorem trans {middle : FileTree start} (hfirst : before.Keeps middle)
    (hsecond : middle.Keeps after) : before.Keeps after :=
  Entry.Keeps.trans hfirst hsecond

/-- Files and directories are kept when an empty directory is put where nothing was. -/
theorem put_empty (hentry : tree.entry? location = none) :
    tree.Keeps (tree.put location .empty) := by
  rw [Keeps, top_put (isDirectoryAt_of_none hentry)]
  exact Entry.Keeps.put_empty hentry

end Keeps

end FileTree

end ActionHandler.Files
