import ActionHandler.Graphql.Name

/-! # Laws of names

A name is never empty and has no other characters than letters, digits and underscores.
-/

namespace ActionHandler.Graphql

/-- That a text has the form of a name. -/
def IsName (text : String) : Prop :=
  isNameText text.toList = true

instance (text : String) : Decidable (IsName text) := by
  unfold IsName
  infer_instance

theorem Name.isName (name : Name) : IsName name.text :=
  name.wellFormed

theorem isNameContinue_of_isNameStart {char : Char} (hchar : isNameStart char = true) :
    isNameContinue char = true := by
  simp only [isNameStart, isNameContinue, Char.isAlphanum, Bool.or_eq_true] at hchar ⊢
  exact hchar.imp_left .inl

namespace IsName

variable {text : String}

theorem toList_ne_nil (htext : IsName text) : text.toList ≠ [] := by
  intro hnil
  simp [IsName, hnil, isNameText] at htext

theorem isNameContinue_of_mem (htext : IsName text) {char : Char}
    (hchar : char ∈ text.toList) : isNameContinue char = true := by
  cases hlist : text.toList with
  | nil => simp [hlist] at hchar
  | cons first rest =>
      simp only [IsName, hlist, isNameText, Bool.and_eq_true, List.all_eq_true] at htext
      rw [hlist] at hchar
      rcases List.mem_cons.mp hchar with rfl | hrest
      · exact isNameContinue_of_isNameStart htext.1
      · exact htext.2 char hrest

/-- A character that no name goes on with is in no name. -/
theorem not_mem (htext : IsName text) {mark : Char} (hmark : isNameContinue mark = false) :
    mark ∉ text.toList := by
  intro hmem
  rw [htext.isNameContinue_of_mem hmem] at hmark
  cases hmark

/-- A name goes on with all that names may go on with. -/
theorem append {rest : String} (htext : IsName text)
    (hrest : ∀ char ∈ rest.toList, isNameContinue char = true) : IsName (text ++ rest) := by
  unfold IsName at htext ⊢
  rw [String.toList_append]
  cases hlist : text.toList with
  | nil => simp [hlist, isNameText] at htext
  | cons first others =>
      simp only [hlist, isNameText, Bool.and_eq_true, List.all_eq_true] at htext
      simp only [List.cons_append, isNameText, Bool.and_eq_true, List.all_eq_true,
        List.mem_append]
      exact ⟨htext.1, fun char hchar => hchar.elim (htext.2 char) (hrest char)⟩

end IsName

end ActionHandler.Graphql
