import ActionHandler.Handler.Naming
import ActionHandler.Proofs.Graphql.Name

/-! # Names derived from names

What is derived from the name of an action is a name too: the upper-case form of a letter
of a name is a letter. Different actions have different derived names, and no constant has the
name of a function.
-/

namespace ActionHandler.Handler

open Graphql Text

variable {action : String}

theorem toNat_lt_of_isNameStart {char : Char} (hchar : isNameStart char = true) :
    char.toNat < 128 := by
  have hletter : isNameStart char = true ↔
      (('A'.val ≤ char.val ∧ char.val ≤ 'Z'.val) ∨ ('a'.val ≤ char.val ∧ char.val ≤ 'z'.val)) ∨
        char = '_' := by
    have hstart : isNameStart char = (decide (char.val ≥ 'A'.val ∧ char.val ≤ 'Z'.val) ||
        (decide (char.val ≥ 'a'.val) && decide (char.val ≤ 'z'.val)) || char == '_') := rfl
    simp [hstart]
  rcases hletter.mp hchar with (⟨_, hupper⟩ | ⟨_, hlower⟩) | rfl
  · exact Nat.lt_of_le_of_lt hupper (by decide)
  · exact Nat.lt_of_le_of_lt hlower (by decide)
  · decide

theorem isNameContinue_of_mem_uppercase {first char : Char} (hfirst : isNameStart first = true)
    (hchar : char ∈ uppercase first) : isNameContinue char = true := by
  have hletters : ((List.range 128).map Char.ofNat).all (fun letter =>
      !isNameStart letter || (uppercase letter).all isNameContinue) = true := by decide +kernel
  have hmem : first ∈ (List.range 128).map Char.ofNat :=
    List.mem_map.mpr ⟨first.toNat, List.mem_range.mpr (toNat_lt_of_isNameStart hfirst),
      Char.ofNat_toNat first⟩
  have hletter := List.all_eq_true.mp hletters first hmem
  rw [hfirst, Bool.not_true, Bool.false_or, List.all_eq_true] at hletter
  exact hletter char hchar

theorem isNameContinue_of_mem_capitalize (haction : IsName action) {char : Char}
    (hchar : char ∈ capitalize action.toList) : isNameContinue char = true := by
  have hcontinue : ∀ char ∈ action.toList, isNameContinue char = true :=
    fun char hchar => haction.isNameContinue_of_mem hchar
  cases hlist : action.toList with
  | nil => exact absurd hlist haction.toList_ne_nil
  | cons first rest =>
      rw [hlist] at hchar hcontinue
      have hstart : isNameStart first = true := by
        simp only [IsName, hlist, isNameText, Bool.and_eq_true] at haction
        exact haction.1
      rw [capitalize] at hchar
      split at hchar
      next =>
        rcases List.mem_append.mp hchar with hupper | hrest
        · exact isNameContinue_of_mem_uppercase hstart hupper
        · exact hcontinue char (List.mem_cons_of_mem first hrest)
      next =>
        rcases List.mem_cons.mp hchar with rfl | hmem
        · decide
        · exact hcontinue char hmem

/-- The constant of a query is named by a name. -/
theorem isName_queryConstantName (haction : IsName action) : IsName (queryConstantName action) :=
  IsName.append (by decide) fun _ hchar => haction.isNameContinue_of_mem hchar

/-- The function that executes a query is named by a name. -/
theorem isName_executeFunctionName (haction : IsName action) :
    IsName (executeFunctionName action) := by
  apply IsName.append (by decide)
  intro char hchar
  rw [String.toList_ofList] at hchar
  exact isNameContinue_of_mem_capitalize haction hchar

/-- Different actions have different constants. -/
theorem queryConstantName_inj {other : String}
    (heq : queryConstantName action = queryConstantName other) : action = other := by
  have hlist := congrArg String.toList heq
  rw [queryConstantName, queryConstantName, String.toList_append, String.toList_append] at hlist
  exact String.toList_inj.mp (List.append_cancel_left hlist)

/-- Undoes what is done to a name whose first letter is put in upper case. -/
def uncapitalize : List Char → List Char
  | [] => []
  | first :: rest => if first = '_' then rest else Char.ofNat (first.toNat + 32) :: rest

/-- The upper-case form of a small letter that a name can start with. -/
theorem uncapitalize_uppercase {first : Char} (hfirst : isNameStart first = true)
    (hlower : isLowercase first = true) (rest : List Char) :
    uncapitalize (uppercase first ++ rest) = first :: rest := by
  have hletters : ((List.range 128).map Char.ofNat).all (fun letter =>
      !isNameStart letter || !isLowercase letter ||
        match uppercase letter with
        | [upper] => upper != '_' && Char.ofNat (upper.toNat + 32) == letter
        | _ => false) = true := by decide +kernel
  have hmem : first ∈ (List.range 128).map Char.ofNat :=
    List.mem_map.mpr ⟨first.toNat, List.mem_range.mpr (toNat_lt_of_isNameStart hfirst),
      Char.ofNat_toNat first⟩
  have hletter := List.all_eq_true.mp hletters first hmem
  simp only [hfirst, hlower, Bool.not_true, Bool.false_or] at hletter
  split at hletter
  next upper hupper =>
    obtain ⟨hmark, hback⟩ : upper ≠ '_' ∧ Char.ofNat (upper.toNat + 32) = first := by
      simpa using hletter
    rw [hupper, List.singleton_append, uncapitalize, if_neg hmark, hback]
  next => cases hletter

/-- The underscore in front of a name that does not start with a small letter keeps it apart
from all names that do. -/
theorem uncapitalize_capitalize (haction : IsName action) :
    uncapitalize (capitalize action.toList) = action.toList := by
  cases hlist : action.toList with
  | nil => exact absurd hlist haction.toList_ne_nil
  | cons first rest =>
      have hstart : isNameStart first = true := by
        simp only [IsName, hlist, isNameText, Bool.and_eq_true] at haction
        exact haction.1
      rw [capitalize]
      split
      next hlower => exact uncapitalize_uppercase hstart hlower rest
      next => rw [uncapitalize, if_pos rfl]

/-- Actions that are names have different functions if they are different. -/
theorem executeFunctionName_inj {other : String} (haction : IsName action)
    (hother : IsName other) (heq : executeFunctionName action = executeFunctionName other) :
    action = other := by
  have hlist := congrArg String.toList heq
  simp only [executeFunctionName, String.toList_append, String.toList_ofList] at hlist
  have hnames := congrArg uncapitalize (List.append_cancel_left hlist)
  rw [uncapitalize_capitalize haction, uncapitalize_capitalize hother] at hnames
  exact String.toList_inj.mp hnames

/-- What a derived name begins with. -/
theorem head?_queryConstantName (action : String) :
    (queryConstantName action).toList.head? = some 'H' := by
  simp [queryConstantName]

theorem head?_executeFunctionName (action : String) :
    (executeFunctionName action).toList.head? = some 'e' := by
  simp [executeFunctionName]

theorem queryConstantName_ne_executeFunctionName (action other : String) :
    queryConstantName action ≠ executeFunctionName other := by
  intro heq
  have hhead := head?_queryConstantName action
  rw [heq, head?_executeFunctionName] at hhead
  cases hhead

end ActionHandler.Handler
