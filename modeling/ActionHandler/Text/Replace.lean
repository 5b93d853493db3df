/-! # Replacing parts of a text

Every occurrence of a pattern is replaced, from left to right and without
overlap: the scan goes on behind each occurrence that it has replaced.
-/

namespace ActionHandler.Text

/-- Replaces the occurrences of `pattern` that begin behind the next `skip`
characters; those belong to an occurrence that is replaced already. -/
def replaceFrom (pattern replacement : List Char) : Nat → List Char → List Char
  | _, [] => []
  | skip + 1, _ :: rest => replaceFrom pattern replacement skip rest
  | 0, char :: rest =>
      if pattern.isPrefixOf (char :: rest) then
        replacement ++ replaceFrom pattern replacement (pattern.length - 1) rest
      else
        char :: replaceFrom pattern replacement 0 rest

/-- Replaces every occurrence of a non-empty pattern. -/
def replaceAll (pattern replacement text : List Char) : List Char :=
  replaceFrom pattern replacement 0 text

/-- A pattern of one character is replaced character by character. -/
theorem replaceAll_singleton (pattern : Char) (replacement text : List Char) :
    replaceAll [pattern] replacement text =
      text.flatMap fun char => if char = pattern then replacement else [char] := by
  unfold replaceAll
  induction text with
  | nil => rfl
  | cons char rest ih =>
      by_cases hmatch : char = pattern
      · subst hmatch
        simp [replaceFrom, List.isPrefixOf, ih]
      · have hmiss : (pattern == char) = false := by
          simpa using fun heq : pattern = char => hmatch heq.symm
        simp [replaceFrom, List.isPrefixOf, hmatch, hmiss, ih]

end ActionHandler.Text
