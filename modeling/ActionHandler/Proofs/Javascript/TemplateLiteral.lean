import ActionHandler.Proofs.Handler.Escaping
import ActionHandler.Proofs.Text.LineEnding

/-! # Template literals

How JavaScript reads a template literal. A backslash takes the character behind it along,
a backquote closes the literal, and a dollar sign with an opening brace behind it starts
a substitution. The value of what has been read has line feeds for all line endings, and
what the escapes stand for in their places.

Escaped text reads back: between two line feeds of the literal it is read as itself, with
its line endings unified.
-/

namespace ActionHandler.Javascript

open Handler Text

/-- A part of a template literal: a character that stands for itself, or one with a
backslash in front of it. -/
inductive LiteralPart
  | plain (char : Char)
  | escaped (char : Char)
  deriving DecidableEq, Repr

/-- How the text behind an opening backquote goes on. -/
inductive Scanned
  /-- The literal is closed, with this text behind the closing backquote. -/
  | closed (parts : List LiteralPart) (rest : List Char)
  /-- A substitution starts before the literal is closed. -/
  | substitution (parts : List LiteralPart)
  /-- The text ends before the literal is closed. -/
  | unterminated
  deriving DecidableEq, Repr

/-- Puts a part in front of what has been scanned. -/
def Scanned.push (part : LiteralPart) : Scanned → Scanned
  | .closed parts rest => .closed (part :: parts) rest
  | .substitution parts => .substitution (part :: parts)
  | .unterminated => .unterminated

/-- Scans a template literal. `afterBackslash` says that a backslash has just been read,
so that the next character belongs to it. -/
def scanFrom (afterBackslash : Bool) : List Char → Scanned
  | [] => .unterminated
  | char :: rest =>
      if afterBackslash then (scanFrom false rest).push (.escaped char)
      else if char = '\\' then scanFrom true rest
      else if char = '\x60' then .closed [] rest
      else if char = '$' ∧ rest.head? = some '\x7b' then .substitution []
      else (scanFrom false rest).push (.plain char)

/-- The letters that stand for a control character behind a backslash. -/
def controlLetters : List (Char × Char) := [
  ('b', '\x08'), ('t', '\t'), ('n', '\n'), ('v', '\x0b'), ('f', '\x0c'), ('r', '\r')]

/-- What a character stands for behind a backslash. A line ending there stands for
nothing. Escapes that give the number of a character are not read. -/
def escapeValue? (char : Char) : Option (List Char) :=
  if char ∈ ['\n', '\r', '\u2028', '\u2029'] then some []
  else if char = 'x' ∨ char = 'u' ∨ char.isDigit then none
  else some [(controlLetters.lookup char).getD char]

/-- The value of parts of a template literal. `afterReturn` says that a carriage return
has just been read, so that a line feed belongs to it. -/
def valueFrom? (afterReturn : Bool) : List LiteralPart → Option (List Char)
  | [] => some []
  | .escaped char :: rest => do
      let value ← escapeValue? char
      let others ← valueFrom? (char == '\r') rest
      return value ++ others
  | .plain char :: rest =>
      if char = '\r' then (valueFrom? true rest).map ('\n' :: ·)
      else if char = '\n' ∧ afterReturn then valueFrom? false rest
      else (valueFrom? false rest).map (char :: ·)

/-- The parts that escaped text is scanned as. -/
def literalParts : List Char → List LiteralPart
  | [] => []
  | char :: rest =>
      (if needsEscape char rest then .escaped char else .plain char) :: literalParts rest

/-- Escaping neither makes nor removes a brace at the beginning of a text. -/
theorem head?_escapeOnward (text : List Char) :
    (escapeOnward text).head? = some '\x7b' ↔ text.head? = some '\x7b' := by
  cases text with
  | nil => rfl
  | cons char rest =>
      by_cases hescape : needsEscape char rest
      · rw [escapeOnward_of_needsEscape hescape]
        rcases hescape with rfl | rfl | ⟨rfl, _⟩ <;> simp
      · rw [escapeOnward_of_not_needsEscape hescape, List.head?_cons, List.head?_cons]

/-- Escaped text is scanned part by part up to what follows it, which may be anything but
a brace that a dollar sign could open a substitution with. -/
theorem scanFrom_escapeOnward (text behind : List Char)
    (hbehind : behind.head? ≠ some '\x7b') :
    scanFrom false (escapeOnward text ++ behind) =
      (literalParts text).foldr Scanned.push (scanFrom false behind) := by
  induction text with
  | nil => rfl
  | cons char rest ih =>
      by_cases hescape : needsEscape char rest
      · rw [escapeOnward_of_needsEscape hescape, literalParts, if_pos hescape, List.foldr_cons,
          ← ih]
        simp [scanFrom]
      · rw [escapeOnward_of_not_needsEscape hescape, literalParts, if_neg hescape,
          List.foldr_cons, ← ih]
        have hslash : char ≠ '\\' := fun heq => hescape (.inl heq)
        have hquote : char ≠ '\x60' := fun heq => hescape (.inr (.inl heq))
        -- A brace behind the escaped text of a dollar sign was behind the sign before.
        have hsubst : ¬ (char = '$' ∧ (escapeOnward rest ++ behind).head? = some '\x7b') := by
          rintro ⟨hdollar, hbrace⟩
          cases hrest : escapeOnward rest with
          | nil =>
              rw [hrest] at hbrace
              exact hbehind hbrace
          | cons next tail =>
              rw [hrest, List.cons_append, List.head?_cons] at hbrace
              have hhead : (escapeOnward rest).head? = some '\x7b' := by
                rw [hrest, List.head?_cons, hbrace]
              exact hescape (.inr (.inr ⟨hdollar, (head?_escapeOnward rest).mp hhead⟩))
        rw [List.cons_append, scanFrom, if_neg (by decide), if_neg hslash, if_neg hquote,
          if_neg hsubst]

theorem escapeValue?_of_needsEscape {char : Char} {rest : List Char}
    (hescape : needsEscape char rest) : escapeValue? char = some [char] := by
  rcases hescape with rfl | rfl | ⟨rfl, _⟩ <;> decide

/-- The parts of escaped text have the text as their value, with unified line endings. -/
theorem valueFrom?_literalParts (afterReturn : Bool) (text : List Char)
    (behind : List LiteralPart) :
    valueFrom? afterReturn (literalParts text ++ behind) =
      (valueFrom? (endsInReturn afterReturn text) behind).map
        (unifyLineEndingsFrom afterReturn text ++ ·) := by
  induction text generalizing afterReturn with
  | nil => simp [literalParts, unifyLineEndingsFrom, endsInReturn]
  | cons char rest ih =>
      rw [endsInReturn_cons, literalParts, List.cons_append, unifyLineEndingsFrom]
      by_cases hescape : needsEscape char rest
      · have hreturn : char ≠ '\r' := by
          rcases hescape with rfl | rfl | ⟨rfl, _⟩ <;> decide
        have hfeed : char ≠ '\n' := by
          rcases hescape with rfl | rfl | ⟨rfl, _⟩ <;> decide
        have hother : (char == '\r') = false := by simpa using hreturn
        rw [if_pos hescape, valueFrom?, escapeValue?_of_needsEscape hescape, ih, hother,
          if_neg hreturn, if_neg (fun h => hfeed h.1)]
        cases valueFrom? (endsInReturn false rest) behind <;> rfl
      · rw [if_neg hescape, valueFrom?]
        by_cases hreturn : char = '\r'
        · subst hreturn
          rw [if_pos rfl, if_pos rfl, ih, beq_self_eq_true]
          cases valueFrom? (endsInReturn true rest) behind <;> rfl
        · have hother : (char == '\r') = false := by simpa using hreturn
          rw [if_neg hreturn, if_neg hreturn, ih, hother]
          split
          · rfl
          · cases valueFrom? (endsInReturn false rest) behind <;> rfl

theorem foldr_push_closed (parts behind : List LiteralPart) (rest : List Char) :
    parts.foldr Scanned.push (.closed behind rest) = .closed (parts ++ behind) rest := by
  induction parts with
  | nil => rfl
  | cons part parts ih => rw [List.foldr_cons, ih, Scanned.push, List.cons_append]

/-- The parts of a literal in which a text stands between two line feeds. -/
def literalOf (text : List Char) : List LiteralPart :=
  .plain '\n' :: (literalParts text ++ [.plain '\n'])

/-- There is no substitution in an escaped text between two line feeds, and the backquote
behind it closes the literal. -/
theorem scanFrom_literalOf (text rest : List Char) :
    scanFrom false ('\n' :: escapeOnward text ++ '\n' :: '\x60' :: rest) =
      .closed (literalOf text) rest := by
  have hclose : scanFrom false ('\n' :: '\x60' :: rest) = .closed [.plain '\n'] rest := by
    simp [scanFrom, Scanned.push]
  have hparts := scanFrom_escapeOnward text ('\n' :: '\x60' :: rest) (by simp)
  rw [hclose, foldr_push_closed] at hparts
  simp [scanFrom, hparts, Scanned.push, literalOf]

theorem valueFrom?_literalOf (text : List Char) :
    valueFrom? false (literalOf text) = some ('\n' :: unifyLineEndings (text ++ ['\n'])) := by
  rw [literalOf, valueFrom?, if_neg (by decide), if_neg (by simp), valueFrom?_literalParts,
    unifyLineEndings, unifyLineEndingsFrom_append]
  cases endsInReturn false text <;> rfl

/-- The character that a part is written with, leaving out a backslash in front of it. -/
def LiteralPart.char : LiteralPart → Char
  | .plain char => char
  | .escaped char => char

theorem map_char_literalParts (text : List Char) : (literalParts text).map (·.char) = text := by
  induction text with
  | nil => rfl
  | cons char rest ih =>
      rw [literalParts, List.map_cons, ih]
      split <;> rfl

/-- Operations can be told from the literals that hold them. -/
theorem literalOf_inj {first second : List Char} (heq : literalOf first = literalOf second) :
    first = second := by
  have hparts := List.append_cancel_right (List.cons.inj heq).2
  rw [← map_char_literalParts first, ← map_char_literalParts second, hparts]

end ActionHandler.Javascript
