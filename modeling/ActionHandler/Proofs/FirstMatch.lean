import Mathlib.Data.List.Forall2

/-! # First matches

A search along a list answers with the first item that has something to answer. It does not
see the items that have nothing to answer, so these may come and go, and it cannot tell apart
items that answer alike.
-/

namespace ActionHandler

variable {α β : Type} {items first second : List α} {item : α} {property : α → Prop}
  {answer : α → Option β} {value : β}

/-- That an item is the first one in a list to have some property. -/
structure IsFirst (property : α → Prop) (items : List α) (item : α) : Prop where
  holds : property item
  splits : ∃ before after, items = before ++ item :: after ∧
    ∀ other ∈ before, ¬ property other

theorem IsFirst.mem (hfirst : IsFirst property items item) : item ∈ items := by
  obtain ⟨before, after, rfl, _⟩ := hfirst.splits
  exact List.mem_append_right before List.mem_cons_self

/-- What is first stays first under a property that says the same of all items. -/
theorem IsFirst.congr {other : α → Prop} (hsame : ∀ item ∈ items, property item ↔ other item)
    (hfirst : IsFirst property items item) : IsFirst other items item := by
  have hholds := (hsame item hfirst.mem).mp hfirst.holds
  obtain ⟨before, after, rfl, hbefore⟩ := hfirst.splits
  refine ⟨hholds, before, after, rfl, ?_⟩
  intro skipped hmem
  exact mt (hsame skipped (List.mem_append_left _ hmem)).mpr (hbefore skipped hmem)

/-- That an item is the last one in a list to have some property. -/
def IsLast (property : α → Prop) (items : List α) (item : α) : Prop :=
  IsFirst property items.reverse item

/-- What is last stays last under a property that says the same of all items. -/
theorem IsLast.congr {other : α → Prop} (hsame : ∀ item ∈ items, property item ↔ other item)
    (hlast : IsLast property items item) : IsLast other items item :=
  IsFirst.congr (fun item hmem => hsame item (List.mem_reverse.mp hmem)) hlast

/-- A search finds the first item with the property that it tests. -/
theorem find?_eq_some_iff_isFirst {test : α → Bool}
    (htest : ∀ other, test other = true ↔ property other) :
    items.find? test = some item ↔ IsFirst property items item := by
  rw [List.find?_eq_some_iff_append]
  simp only [Bool.not_eq_true', ← Bool.not_eq_true, htest]
  exact ⟨fun ⟨hholds, hsplits⟩ => ⟨hholds, hsplits⟩, fun ⟨hholds, hsplits⟩ => ⟨hholds, hsplits⟩⟩

/-- There is only one first item. -/
theorem IsFirst.unique {other : α} (hfirst : IsFirst property items item)
    (hother : IsFirst property items other) : item = other := by
  classical
  have htest : ∀ item, decide (property item) = true ↔ property item := fun _ => decide_eq_true_iff
  have hfound := (find?_eq_some_iff_isFirst htest).mpr hfirst
  rw [(find?_eq_some_iff_isFirst htest).mpr hother, Option.some.injEq] at hfound
  exact hfound.symm

section

variable (hanswer : ∀ other, (answer other).isSome ↔ property other)
include hanswer

theorem answer_eq_none_iff (other : α) : answer other = none ↔ ¬ property other := by
  rw [← hanswer, Option.not_isSome_iff_eq_none]

/-- A search ends at the first item that has an answer. -/
theorem findSome?_eq_some_iff_isFirst :
    items.findSome? answer = some value ↔
      ∃ item, IsFirst property items item ∧ answer item = some value := by
  rw [List.findSome?_eq_some_iff]
  simp only [answer_eq_none_iff hanswer]
  constructor
  · rintro ⟨before, item, after, hitems, hvalue, hbefore⟩
    have hholds : property item := (hanswer item).mp (by rw [hvalue]; rfl)
    exact ⟨item, ⟨hholds, before, after, hitems, hbefore⟩, hvalue⟩
  · rintro ⟨item, ⟨_, before, after, hitems, hbefore⟩, hvalue⟩
    exact ⟨before, item, after, hitems, hvalue, hbefore⟩

/-- No answer is found when no item has the property. -/
theorem findSome?_eq_none_iff_forall_not :
    items.findSome? answer = none ↔ ∀ other ∈ items, ¬ property other := by
  rw [List.findSome?_eq_none_iff]
  simp only [answer_eq_none_iff hanswer]

/-- An answer is found when there is an item with the property. -/
theorem isSome_findSome?_iff_exists :
    (items.findSome? answer).isSome ↔ ∃ item ∈ items, property item := by
  rw [List.findSome?_isSome_iff]
  simp only [hanswer]

end

/-- A search along what is picked from a list is one along the list. -/
theorem findSome?_filterMap {γ : Type} (pick : α → Option γ) (answer : γ → Option β)
    (items : List α) :
    (items.filterMap pick).findSome? answer =
      items.findSome? fun item => (pick item).bind answer := by
  rw [← List.head?_filterMap, List.filterMap_filterMap, List.head?_filterMap]

/-- An item may give way to two that answer as it does between them. -/
theorem findSome?_split {one other : α} (hanswer : answer item = (answer one).or (answer other))
    (before after : List α) :
    (before ++ one :: other :: after).findSome? answer =
      (before ++ item :: after).findSome? answer := by
  simp only [List.findSome?_append, List.findSome?_cons, hanswer]
  cases answer one <;> rfl

/-- That a list is made of another one by edits: items that can be skipped are taken out and
put in, at any places, and each item that stays may become one like it. -/
inductive Edited (skipped : α → Prop) (alike : α → α → Prop) : List α → List α → Prop
  | nil : Edited skipped alike [] []
  | putIn {item : α} {items others : List α} (hskipped : skipped item)
      (hrest : Edited skipped alike items others) : Edited skipped alike items (item :: others)
  | takeOut {item : α} {items others : List α} (hskipped : skipped item)
      (hrest : Edited skipped alike items others) : Edited skipped alike (item :: items) others
  | keep {item other : α} {items others : List α} (halike : alike item other)
      (hrest : Edited skipped alike items others) :
      Edited skipped alike (item :: items) (other :: others)

/-- Edits change the answer of a search no more than the answers of single items. -/
theorem Edited.findSome?_rel {skipped : α → Prop} {alike : α → α → Prop} {same : β → β → Prop}
    (hskipped : ∀ item, skipped item → answer item = none)
    (halike : ∀ item other, alike item other → Option.Rel same (answer item) (answer other))
    (hedited : Edited skipped alike first second) :
    Option.Rel same (first.findSome? answer) (second.findSome? answer) := by
  induction hedited with
  | nil => exact .none
  | putIn hitem _ ih =>
      rw [List.findSome?_cons, hskipped _ hitem]
      exact ih
  | takeOut hitem _ ih =>
      rw [List.findSome?_cons, hskipped _ hitem]
      exact ih
  | @keep item other _ _ hitem _ ih =>
      have hanswers := halike item other hitem
      rw [List.findSome?_cons, List.findSome?_cons]
      generalize answer item = here, answer other = there at hanswers ⊢
      cases hanswers with
      | some hsame => exact .some hsame
      | none => exact ih

/-- Lists that are alike item by item have results of a search that are alike. -/
theorem find?_rel {same : α → α → Prop} {test : α → Bool}
    (htest : ∀ item other, same item other → test item = test other)
    (hsame : List.Forall₂ same first second) :
    Option.Rel same (first.find? test) (second.find? test) := by
  induction hsame with
  | nil => exact .none
  | @cons item other _ _ hitem _ ih =>
      rw [List.find?_cons, List.find?_cons, htest item other hitem]
      cases test other with
      | true => exact .some hitem
      | false => exact ih

/-- Lists that are alike item by item look the same under a view that cannot tell like items
apart. -/
theorem map_eq_of_forall₂ {same : α → α → Prop} {view : α → β}
    (hview : ∀ item other, same item other → view item = view other)
    (hsame : List.Forall₂ same first second) : first.map view = second.map view := by
  induction hsame with
  | nil => rfl
  | cons hitem _ ih => rw [List.map_cons, List.map_cons, hview _ _ hitem, ih]

theorem rel_self {same : α → α → Prop} (hself : ∀ item, same item item) (one : Option α) :
    Option.Rel same one one := by
  cases one with
  | none => exact .none
  | some item => exact .some (hself item)

theorem eq_none_of_rel {same : α → β → Prop} {other : Option β}
    (hsame : Option.Rel same none other) : other = none := by
  cases hsame
  rfl

/-- What is like something that is there is there too. -/
theorem exists_of_rel {same : α → β → Prop} {item : α} {other : Option β}
    (hsame : Option.Rel same (some item) other) :
    ∃ value, other = some value ∧ same item value := by
  cases hsame with
  | some hvalue => exact ⟨_, rfl, hvalue⟩

theorem eq_of_rel {one other : Option α} (hsame : Option.Rel Eq one other) : one = other := by
  cases hsame with
  | some hvalue => exact congrArg some hvalue
  | none => rfl

theorem isSome_eq_of_rel {same : α → β → Prop} {one : Option α} {other : Option β}
    (hsame : Option.Rel same one other) : one.isSome = other.isSome := by
  cases hsame <;> rfl

end ActionHandler
