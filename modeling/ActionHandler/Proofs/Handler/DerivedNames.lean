import ActionHandler.Proofs.Handler.Naming
import ActionHandler.Proofs.Text.Casing

/-! # When derived names are the same

The function of an action has the name of another one's only if both actions begin with small
letters that have the same upper-case form, as far as the rest of their names lets it be told
apart. Letters of names have different forms, so different names have different functions. Constants
and functions are kept apart from each other and from what a handler calls otherwise.
-/

namespace ActionHandler.Handler

open Graphql Text

variable {action other : String}

/-- That two texts begin with small letters and are the same with these in upper case. -/
def CapitalizedAlike (text text' : List Char) : Prop :=
  ∃ first rest first' rest', text = first :: rest ∧ text' = first' :: rest' ∧
    isLowercase first = true ∧ isLowercase first' = true ∧
      uppercase first ++ rest = uppercase first' ++ rest'

/-- A text begins with a small letter, which is put in upper case, or it gets an underscore. -/
theorem cases_of_capitalize (text : List Char) :
    (∃ first rest, text = first :: rest ∧ isLowercase first = true ∧
      capitalize text = uppercase first ++ rest) ∨
      capitalize text = '_' :: text := by
  cases text with
  | nil => exact .inr rfl
  | cons first rest =>
      rw [capitalize]
      split
      next hlower => exact .inl ⟨first, rest, rfl, hlower, rfl⟩
      next => exact .inr rfl

/-- A text that gets an underscore is kept apart from all that begin with a small letter. -/
theorem uppercase_append_ne {first : Char} (hlower : isLowercase first = true)
    (rest text : List Char) : uppercase first ++ rest ≠ '_' :: text := by
  obtain ⟨upper, others, hupper, hmark⟩ := uppercase_eq_cons hlower
  rw [hupper, List.cons_append]
  intro heq
  exact hmark (List.cons.inj heq).1

theorem capitalize_eq_iff (text text' : List Char) :
    capitalize text = capitalize text' ↔ text = text' ∨ CapitalizedAlike text text' := by
  constructor
  · intro heq
    rcases cases_of_capitalize text with ⟨first, rest, rfl, hlower, hupper⟩ | hmark
    · rcases cases_of_capitalize text' with ⟨first', rest', rfl, hlower', hupper'⟩ | hmark'
      · rw [hupper, hupper'] at heq
        exact .inr ⟨first, rest, first', rest', rfl, rfl, hlower, hlower', heq⟩
      · rw [hupper, hmark'] at heq
        exact absurd heq (uppercase_append_ne hlower rest text')
    · rcases cases_of_capitalize text' with ⟨first', rest', rfl, hlower', hupper'⟩ | hmark'
      · rw [hmark, hupper'] at heq
        exact absurd heq.symm (uppercase_append_ne hlower' rest' text)
      · rw [hmark, hmark'] at heq
        exact .inl (List.cons.inj heq).2
  · rintro (rfl | ⟨first, rest, first', rest', rfl, rfl, hlower, hlower', heq⟩)
    · rfl
    · rw [capitalize, capitalize, if_pos hlower, if_pos hlower', heq]

theorem executeFunctionName_eq_iff :
    executeFunctionName action = executeFunctionName other ↔
      action = other ∨ CapitalizedAlike action.toList other.toList := by
  rw [← String.toList_inj, executeFunctionName, executeFunctionName, String.toList_append,
    String.toList_append, List.append_cancel_left_eq, String.toList_ofList, String.toList_ofList,
    capitalize_eq_iff, String.toList_inj]

/-- What else a handler speaks of has no derived name. -/
theorem derivedNames_ne_of_head? {text : String} (hquery : text.toList.head? ≠ some 'H')
    (hexecute : text.toList.head? ≠ some 'e') :
    queryConstantName action ≠ text ∧ executeFunctionName action ≠ text := by
  constructor
  · rintro rfl
    exact hquery (head?_queryConstantName action)
  · rintro rfl
    exact hexecute (head?_executeFunctionName action)

/-- Derived names tell their actions apart, as far as upper case does, and are no other names. -/
theorem derivedNames_one_to_one :
    (∀ action other, executeFunctionName action = executeFunctionName other ↔
      action = other ∨ CapitalizedAlike action.toList other.toList) ∧
    (∀ action other, IsName action → IsName other →
      executeFunctionName action = executeFunctionName other → action = other) ∧
    (∀ action other, queryConstantName action ≠ executeFunctionName other) ∧
    (∀ action other, queryConstantName action = queryConstantName other → action = other) ∧
    ∀ action, ∀ text ∈ ["fetch", "module", "process", "context", "req"],
      queryConstantName action ≠ text ∧ executeFunctionName action ≠ text := by
  refine ⟨fun _ _ => executeFunctionName_eq_iff, ?_, queryConstantName_ne_executeFunctionName,
    ?_, ?_⟩
  · intro action other haction hother heq
    exact executeFunctionName_inj haction hother heq
  · intro action other heq
    exact queryConstantName_inj heq
  · intro action text htext
    have hheads : ∀ text ∈ ["fetch", "module", "process", "context", "req"],
        text.toList.head? ≠ some 'H' ∧ text.toList.head? ≠ some 'e' := by decide
    exact derivedNames_ne_of_head? (hheads text htext).1 (hheads text htext).2

/-- A small i without its dot has the upper-case form of the one with it, but no name has such
a letter. -/
theorem derivedNames_dotless :
    executeFunctionName "ıd" = executeFunctionName "id" ∧
      executeFunctionName "id" ≠ executeFunctionName "Id" ∧
      queryConstantName "id" ≠ queryConstantName "Id" ∧
      executeFunctionName "" ≠ "req" := by
  obtain ⟨hsame, hnames, _, hconstants, hother⟩ := derivedNames_one_to_one
  refine ⟨?_, ?_, ?_, (hother "" "req" (by decide)).2⟩
  · exact (hsame _ _).mpr (.inr ⟨'ı', ['d'], 'i', ['d'], rfl, rfl, by decide +kernel,
      by decide +kernel, by decide +kernel⟩)
  · intro heq
    exact absurd (hnames "id" "Id" (by decide) (by decide) heq) (by decide)
  · intro heq
    exact absurd (hconstants "id" "Id" heq) (by decide)

end ActionHandler.Handler
