import ActionHandler.Text.LineEnding

/-! # Laws of line endings

Unifying line endings goes through a text from left to right and needs to know only
whether it stands behind a carriage return. So it works on the parts of a text one by
one, and a line feed that is put behind a text is lost exactly when the text ends in a
carriage return.
-/

namespace ActionHandler.Text

/-- Whether a place stands behind a carriage return, given a text in front of it and
whether that text stands behind one. -/
def endsInReturn (afterReturn : Bool) (text : List Char) : Bool :=
  (text.getLast?.map (· == '\r')).getD afterReturn

theorem endsInReturn_cons (afterReturn : Bool) (char : Char) (rest : List Char) :
    endsInReturn afterReturn (char :: rest) = endsInReturn (char == '\r') rest := by
  cases rest with
  | nil => rfl
  | cons next rest => simp [endsInReturn, List.getLast?_cons]

/-- The parts of a text are unified one by one. -/
theorem unifyLineEndingsFrom_append (afterReturn : Bool) (first second : List Char) :
    unifyLineEndingsFrom afterReturn (first ++ second) =
      unifyLineEndingsFrom afterReturn first ++
        unifyLineEndingsFrom (endsInReturn afterReturn first) second := by
  induction first generalizing afterReturn with
  | nil => rfl
  | cons char rest ih =>
      rw [endsInReturn_cons, List.cons_append, unifyLineEndingsFrom, unifyLineEndingsFrom]
      by_cases hreturn : char = '\r'
      · subst hreturn
        simp [ih]
      · have hother : (char == '\r') = false := by simpa using hreturn
        rw [if_neg hreturn, if_neg hreturn, ih, hother]
        split <;> rfl

/-- A line feed behind a text is a line ending of its own unless the text ends in a
carriage return. -/
theorem unifyLineEndings_append_lineFeed (text : List Char) :
    unifyLineEndings (text ++ ['\n']) =
      if text.getLast? = some '\r' then unifyLineEndings text
      else unifyLineEndings text ++ ['\n'] := by
  unfold unifyLineEndings
  rw [unifyLineEndingsFrom_append]
  cases hlast : text.getLast? with
  | none => simp [endsInReturn, hlast, unifyLineEndingsFrom]
  | some last =>
      by_cases hreturn : last = '\r'
      · simp [endsInReturn, hlast, hreturn, unifyLineEndingsFrom]
      · have hother : (last == '\r') = false := by simpa using hreturn
        simp [endsInReturn, hlast, hreturn, hother, unifyLineEndingsFrom]

/-- A text without carriage returns stays as it is. -/
theorem unifyLineEndings_eq_self {text : List Char} (htext : '\r' ∉ text) :
    unifyLineEndings text = text := by
  unfold unifyLineEndings
  induction text with
  | nil => rfl
  | cons char rest ih =>
      have hchar : char ≠ '\r' := fun heq => htext (by simp [heq])
      have hrest : '\r' ∉ rest := fun hmem => htext (List.mem_cons_of_mem char hmem)
      rw [unifyLineEndingsFrom, if_neg hchar, if_neg (by simp), ih hrest]

end ActionHandler.Text
