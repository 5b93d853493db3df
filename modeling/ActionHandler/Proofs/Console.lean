import ActionHandler.Proofs.Text.RawText
import ActionHandler.Settings

/-! # What can be printed

Texts are printed one after the other, as they are, up to the first that has a surrogate which
standard output does not take. A string can always be printed.
-/

namespace ActionHandler.Console

open Text (RawText EncodeError)

variable {console : Console} {texts : List RawText} {text : RawText} {error : EncodeError}

/-- That standard output takes all surrogates of a text. -/
def Takes (console : Console) (text : RawText) : Prop :=
  text.encodeError? console.allows = none

/-- Every output takes strings. -/
theorem takes_ofString (console : Console) (text : String) : console.Takes text :=
  RawText.encodeError?_ofString _ text

/-- What keeps what is printed as text takes all texts. -/
theorem takes_keeping (text : RawText) : Console.keeping.Takes text :=
  RawText.encodeError?_eq_none_iff.mpr fun _ _ => rfl

/-- Two texts in a row are taken when each of them is. -/
theorem takes_append {first second : RawText} :
    console.Takes (first ++ second) ↔ console.Takes first ∧ console.Takes second :=
  RawText.encodeError?_append_eq_none_iff

theorem print_cons_of_takes (htext : console.Takes text) (rest : List RawText) :
    console.print (text :: rest) = (console.print rest).map (text ++ ·) := by
  rw [Takes] at htext
  rw [print, htext]

/-- Texts are printed when each of them can be. -/
theorem print_of_forall_takes (htexts : ∀ text ∈ texts, console.Takes text) :
    console.print texts = .ok texts.flatten := by
  induction texts with
  | nil => rfl
  | cons first rest ih =>
      obtain ⟨hfirst, hrest⟩ := List.forall_mem_cons.mp htexts
      rw [print_cons_of_takes hfirst, ih hrest]
      rfl

/-- Printing ends at the first text that cannot be printed. -/
theorem print_cons_eq_error_iff {rest : List RawText} :
    console.print (text :: rest) = .error error ↔
      text.encodeError? console.allows = some error ∨
        console.Takes text ∧ console.print rest = .error error := by
  rw [print, Takes]
  cases text.encodeError? console.allows with
  | some other => simp
  | none => cases console.print rest <;> simp [Except.map]

theorem print_singleton_eq_error_iff :
    console.print [text] = .error error ↔ text.encodeError? console.allows = some error := by
  rw [print_cons_eq_error_iff]
  exact or_iff_left fun hrest => nomatch hrest.2

end ActionHandler.Console
