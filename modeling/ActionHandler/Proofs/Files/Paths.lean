import ActionHandler.Files.FileSystem
import ActionHandler.Handler.Naming
import ActionHandler.Proofs.Graphql.Name
import ActionHandler.Proofs.Text.Delimited
import ActionHandler.Proofs.Text.RawText

/-! # Laws of paths

The text of a path has the code points of its components and no others that matter here,
becomes longer with every component, and reads back as the path. The file of an action
stands directly under the directory that it is joined to.
-/

namespace ActionHandler.Files.Path

open Graphql Handler Text

/-- What is no dot and no slash is in a path when it is in a component. -/
theorem mem_text_iff (path : Path) (point : RawChar) (hdot : point ≠ .char '.')
    (hslash : point ≠ .char '/') :
    point ∈ path.text ↔ ∃ component ∈ path.components, point ∈ component := by
  obtain ⟨root, components⟩ := path
  have hroot : point ∉ (root.text : RawText) := by
    cases root <;> simp [Root.text, RawText.ofString, hslash]
  unfold text
  split
  next hnone =>
    obtain ⟨_, hcomponents⟩ := hnone
    dsimp only at hcomponents
    subst hcomponents
    simp [RawText.ofString, hdot]
  next =>
    rw [List.mem_append, mem_intercalate_iff (by simpa using hslash)]
    simp [hroot]

/-- Nothing keeps requests from being made about a path when nothing in its components does. -/
theorem fault?_eq_none_iff (path : Path) :
    path.fault? = none ↔ ∀ component ∈ path.components,
      component.encodeError? (·.byte?.isSome) = none ∧ .char '\x00' ∉ component := by
  have hencode : path.text.encodeError? (·.byte?.isSome) = none ↔
      ∀ component ∈ path.components, component.encodeError? (·.byte?.isSome) = none := by
    have hsurrogate := fun value => path.mem_text_iff (.surrogate value) nofun nofun
    simp only [RawText.encodeError?_eq_none_iff, hsurrogate]
    constructor
    · intro hall component hmem value hvalue
      exact hall value ⟨component, hmem, hvalue⟩
    · rintro hall value ⟨component, hmem, hvalue⟩
      exact hall component hmem value hvalue
  have hnul := path.mem_text_iff (.char '\x00') (by decide) (by decide)
  unfold fault?
  constructor
  · intro hnone
    split at hnone
    next => cases hnone
    next hencodes =>
      split at hnone
      next => cases hnone
      next hclear =>
        intro component hmem
        exact ⟨hencode.mp hencodes component hmem, fun hmark => hclear (hnul.mpr ⟨_, hmem, hmark⟩)⟩
  · intro hall
    rw [hencode.mpr fun component hmem => (hall component hmem).1, if_neg]
    rw [hnul]
    rintro ⟨component, hmem, hmark⟩
    exact (hall component hmem).2 hmark

/-- A path that goes on from one that no request can be made about is no better. -/
theorem fault?_append {root : Root} {front : List RawText} {fault : Fault}
    (hfault : fault? ⟨root, front⟩ = some fault) (rest : List RawText) :
    ∃ other, fault? ⟨root, front ++ rest⟩ = some other := by
  cases hother : fault? ⟨root, front ++ rest⟩ with
  | some other => exact ⟨other, rfl⟩
  | none =>
      have hclear := (fault?_eq_none_iff _).mp hother
      have hnone : fault? ⟨root, front⟩ = none :=
        (fault?_eq_none_iff _).mpr fun component hmem =>
          hclear component (List.mem_append_left rest hmem)
      cases hnone.symm.trans hfault

theorem text_of_components_ne_nil {root : Root} {components : List RawText}
    (hcomponents : components ≠ []) :
    text ⟨root, components⟩ = root.text ++ [.char '/'].intercalate components := by
  rw [text, if_neg fun hdot => hcomponents hdot.2]

/-- The text of the first components is the beginning of the text of all of them. -/
theorem intercalate_prefix (separator : RawText) (front rest : List RawText) :
    separator.intercalate front <+: separator.intercalate (front ++ rest) := by
  induction front with
  | nil => simp
  | cons first front ih =>
      cases front with
      | nil =>
          cases rest with
          | nil => simp
          | cons next rest => simp [List.intercalate_cons_cons]
      | cons next front =>
          rw [List.cons_append, List.cons_append, List.intercalate_cons_cons,
            List.intercalate_cons_cons]
          exact (List.prefix_append_right_inj _).mpr ih

/-- A path that goes on is not shorter, but for the dot of the path without components. -/
theorem lt_size_text_append {root : Root} {front : List RawText} {limit : Nat} (hlimit : 2 ≤ limit)
    (hfront : limit < (text ⟨root, front⟩).bytes.length) (rest : List RawText) :
    limit < (text ⟨root, front ++ rest⟩).bytes.length := by
  by_cases hnil : front = []
  · subst hnil
    have hsize : (text ⟨root, []⟩).bytes.length ≤ 2 := by cases root <;> decide
    omega
  · obtain ⟨behind, hbehind⟩ := intercalate_prefix [.char '/'] front rest
    rw [text_of_components_ne_nil hnil] at hfront
    rw [text_of_components_ne_nil (by simp [hnil]), ← hbehind, ← List.append_assoc,
      RawText.bytes_append, List.length_append]
    omega

/-- That the components of a path are those of some text. -/
def WellFormed (path : Path) : Prop :=
  ∀ component ∈ path.components, isComponent component = true ∧ .char '/' ∉ component

/-- What is read from a text has no components that would not be read. -/
theorem wellFormed_ofText (text : RawText) : (ofText text).WellFormed := by
  intro component hmem
  obtain ⟨hsplit, hcomponent⟩ := List.mem_filter.mp hmem
  exact ⟨hcomponent, not_mem_of_mem_splitOn hsplit⟩

/-- A root is read back in front of a text that does not begin with a slash. -/
theorem rootOf_text (root : Root) {text : RawText} (htext : text.head? ≠ some (.char '/')) :
    rootOf (root.text ++ text) = root := by
  have hnone : text.takeWhile (· == .char '/') = [] := by
    cases text with
    | nil => rfl
    | cons first rest =>
        rw [List.takeWhile_cons, if_neg]
        simpa using htext
  cases root <;> simp [rootOf, Root.text, RawText.ofString, hnone]

theorem componentsOf_append_slash (text : RawText) :
    componentsOf (.char '/' :: text) = componentsOf text := by
  have hsplit := List.splitOn_append_cons_self (a := RawChar.char '/') [] text
  rw [List.nil_append] at hsplit
  have hempty : isComponent [] = false := by decide
  simp [componentsOf, hsplit, hempty]

/-- The text of a path reads back as the path. -/
theorem ofText_text {path : Path} (hpath : path.WellFormed) : ofText path.text = path := by
  obtain ⟨root, components⟩ := path
  by_cases hnil : components = []
  · subst hnil
    cases root <;> decide
  · have hbody : componentsOf ([.char '/'].intercalate components) = components := by
      rw [componentsOf, List.splitOn_intercalate _ (fun component hmem => (hpath component hmem).2)
        hnil]
      exact List.filter_eq_self.mpr fun component hmem => (hpath component hmem).1
    have hhead : ([.char '/'].intercalate components).head? ≠ some (.char '/') := by
      obtain ⟨first, rest, rfl⟩ := List.exists_cons_of_ne_nil hnil
      obtain ⟨hfirst, hslash⟩ := hpath first List.mem_cons_self
      cases first with
      | nil => cases hfirst
      | cons point points =>
          have hpoint : point ≠ .char '/' := by
            rintro rfl
            exact hslash List.mem_cons_self
          cases rest <;> simpa [List.intercalate_cons_cons] using hpoint
    rw [ofText, text_of_components_ne_nil hnil, rootOf_text root hhead]
    cases root <;>
      simp [Root.text, RawText.ofString, componentsOf_append_slash, hbody]

/-- A text of one component leads directly below a path. -/
theorem join_of_not_mem {text : RawText} (hslash : .char '/' ∉ text)
    (hcomponent : isComponent text = true) (path : Path) :
    path.join text = ⟨path.root, path.components ++ [text]⟩ := by
  have hroot : rootOf text = .relative := by
    have hhead : text.head? ≠ some (.char '/') := fun hhead => hslash (List.mem_of_head? hhead)
    exact rootOf_text .relative hhead
  have hcomponents : componentsOf text = [text] := by
    rw [componentsOf, List.splitOn_eq_singleton hslash]
    simp [hcomponent]
  rw [join, ofText]
  simp only [hroot, hcomponents]

/-- A character that is in no name and not in the extension is not in the name of a file. -/
theorem not_mem_fileName {action : String} (haction : IsName action) {mark : Char}
    (hmark : isNameContinue mark = false) (hextension : mark ∉ ".js".toList) :
    .char mark ∉ (fileName action : RawText) := by
  rw [RawText.mem_ofString, fileName, String.toList_append, List.mem_append]
  exact not_or.mpr ⟨haction.not_mem hmark, hextension⟩

/-- The file of an action has a name longer than any dots that mean something. -/
theorem fileName_ne (action : String) {text : String} (htext : text.length < 3) :
    (fileName action : RawText) ≠ text := by
  intro heq
  obtain rfl := RawText.ofString_inj.mp heq
  rw [fileName, String.length_append] at htext
  have hextension : ".js".length = 3 := rfl
  omega

theorem isComponent_fileName (action : String) : isComponent (fileName action) = true := by
  have hempty : (fileName action : RawText) ≠ "" := fileName_ne action (by decide)
  have hdot : (fileName action : RawText) ≠ "." := fileName_ne action (by decide)
  simp [isComponent, hempty, hdot]

/-- The file of an action, as a path below a directory. -/
def handlerBelow (directory : Path) (action : String) : Path :=
  ⟨directory.root, directory.components ++ [(fileName action : RawText)]⟩

/-- The name of the file of an action leads one step down, because it has no slash in it. -/
theorem join_fileName {action : String} (haction : IsName action) (directory : Path) :
    directory.join (fileName action) = directory.handlerBelow action :=
  join_of_not_mem (not_mem_fileName haction (by decide) (by decide))
    (isComponent_fileName action) directory

/-- The file of an action can be asked about when its directory can. -/
theorem fault?_handlerBelow {action : String} (haction : IsName action) {directory : Path}
    (hdirectory : directory.fault? = none) : (directory.handlerBelow action).fault? = none := by
  have hname := not_mem_fileName haction (show isNameContinue '\x00' = false by decide)
    (by decide)
  rw [fault?_eq_none_iff] at hdirectory ⊢
  intro component hmem
  rcases List.mem_append.mp hmem with hmem | hmem
  · exact hdirectory component hmem
  · obtain rfl := List.mem_singleton.mp hmem
    exact ⟨RawText.encodeError?_ofString _ _, hname⟩

end ActionHandler.Files.Path
