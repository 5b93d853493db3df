import ActionHandler.Handler.Literal

/-! # Escaping in one pass

The escaping of a template literal replaces three patterns one after the other, each in
the text that the one before has left. The same text comes out of one pass from left to
right, which puts a backslash in front of each backslash, each backquote, and each dollar
sign that an opening brace follows. None of the inserted backslashes makes, hides or
splits a later match. Since the pass looks only one character ahead, texts in a row are
escaped one by one, unless they meet in the middle of the mark that starts a substitution.
-/

namespace ActionHandler.Handler

open Text

/-- Whether a character of a template literal is escaped, given the text behind it. -/
def needsEscape (char : Char) (rest : List Char) : Prop :=
  char = '\\' ∨ char = '\x60' ∨ char = '$' ∧ rest.head? = some '\x7b'

instance (char : Char) (rest : List Char) : Decidable (needsEscape char rest) := by
  unfold needsEscape
  infer_instance

/-- Escapes the text of a template literal from left to right. -/
def escapeOnward : List Char → List Char
  | [] => []
  | char :: rest =>
      if needsEscape char rest then '\\' :: char :: escapeOnward rest
      else char :: escapeOnward rest

theorem escapeOnward_of_needsEscape {char : Char} {rest : List Char}
    (hescape : needsEscape char rest) :
    escapeOnward (char :: rest) = '\\' :: char :: escapeOnward rest := by
  rw [escapeOnward, if_pos hescape]

theorem escapeOnward_of_not_needsEscape {char : Char} {rest : List Char}
    (hplain : ¬ needsEscape char rest) :
    escapeOnward (char :: rest) = char :: escapeOnward rest := by
  rw [escapeOnward, if_neg hplain]

/-- The text between the last two replacements: backslashes and backquotes are escaped. -/
def escapeMarks (text : List Char) : List Char :=
  text.flatMap fun char =>
    if char = '\\' ∨ char = '\x60' then ['\\', char] else [char]

theorem replaceAll_marks (text : List Char) :
    replaceAll ['\x60'] ['\\', '\x60'] (replaceAll ['\\'] ['\\', '\\'] text) =
      escapeMarks text := by
  rw [replaceAll_singleton, replaceAll_singleton, List.flatMap_assoc]
  unfold escapeMarks
  congr 1
  funext char
  by_cases hslash : char = '\\'
  · subst hslash
    simp
  · by_cases hquote : char = '\x60'
    · subst hquote
      simp
    · simp [hslash, hquote]

/-- The start of a substitution is looked for behind the next character when that is no
dollar sign. -/
theorem replaceAll_substitution_cons {char : Char} (hchar : char ≠ '$') (rest : List Char) :
    replaceAll ['$', '\x7b'] ['\\', '$', '\x7b'] (char :: rest) =
      char :: replaceAll ['$', '\x7b'] ['\\', '$', '\x7b'] rest := by
  have hmiss : ('$' == char) = false := by
    simpa using fun heq : '$' = char => hchar heq.symm
  simp [replaceAll, replaceFrom, List.isPrefixOf, hmiss]

theorem replaceAll_substitution_dollar {rest : List Char} (hrest : rest.head? ≠ some '\x7b') :
    replaceAll ['$', '\x7b'] ['\\', '$', '\x7b'] ('$' :: rest) =
      '$' :: replaceAll ['$', '\x7b'] ['\\', '$', '\x7b'] rest := by
  cases rest with
  | nil => rfl
  | cons next rest =>
      have hmiss : ('\x7b' == next) = false := by
        simpa using fun heq : '\x7b' = next => hrest (by simp [← heq])
      simp [replaceAll, replaceFrom, List.isPrefixOf, hmiss]

theorem replaceAll_substitution_brace (rest : List Char) :
    replaceAll ['$', '\x7b'] ['\\', '$', '\x7b'] ('$' :: '\x7b' :: rest) =
      '\\' :: '$' :: '\x7b' :: replaceAll ['$', '\x7b'] ['\\', '$', '\x7b'] rest := by
  simp [replaceAll, replaceFrom, List.isPrefixOf]

theorem head?_escapeMarks (text : List Char) :
    (escapeMarks text).head? = some '\x7b' ↔ text.head? = some '\x7b' := by
  cases text with
  | nil => rfl
  | cons char rest =>
      by_cases hmark : char = '\\' ∨ char = '\x60'
      · rcases hmark with rfl | rfl <;> simp [escapeMarks]
      · simp [escapeMarks, hmark]

/-- The three replacements amount to one pass from left to right. -/
theorem escapeTemplateChars_eq_escapeOnward (text : List Char) :
    escapeTemplateChars text = escapeOnward text := by
  unfold escapeTemplateChars
  rw [replaceAll_marks]
  induction text with
  | nil => rfl
  | cons char rest ih =>
      by_cases hmark : char = '\\' ∨ char = '\x60'
      · -- The inserted backslash and the mark behind it are both no dollar sign.
        have hne : char ≠ '$' := by
          rcases hmark with rfl | rfl <;> decide
        have hescape : needsEscape char rest := hmark.imp_right .inl
        have hmarks : escapeMarks (char :: rest) = '\\' :: char :: escapeMarks rest := by
          simp [escapeMarks, hmark]
        rw [hmarks, replaceAll_substitution_cons (by decide), replaceAll_substitution_cons hne,
          ih, escapeOnward_of_needsEscape hescape]
      · have hmarks : escapeMarks (char :: rest) = char :: escapeMarks rest := by
          simp [escapeMarks, hmark]
        rw [hmarks]
        by_cases hdollar : char = '$'
        · subst hdollar
          by_cases hbrace : rest.head? = some '\x7b'
          · have hescape : needsEscape '$' rest := .inr (.inr ⟨rfl, hbrace⟩)
            obtain ⟨tail, rfl⟩ := List.head?_eq_some_iff.mp hbrace
            have htail : escapeMarks ('\x7b' :: tail) = '\x7b' :: escapeMarks tail := by
              simp [escapeMarks]
            rw [htail, replaceAll_substitution_cons (by decide)] at ih
            rw [htail, replaceAll_substitution_brace, ih, escapeOnward_of_needsEscape hescape]
          · have hplain : ¬ needsEscape '$' rest := by
              simp [needsEscape, hbrace]
            have hmiss : (escapeMarks rest).head? ≠ some '\x7b' :=
              fun hhead => hbrace ((head?_escapeMarks rest).mp hhead)
            rw [replaceAll_substitution_dollar hmiss, ih,
              escapeOnward_of_not_needsEscape hplain]
        · have hplain : ¬ needsEscape char rest := by
            rintro (hslash | hquote | hsubst)
            · exact hmark (.inl hslash)
            · exact hmark (.inr hquote)
            · exact hdollar hsubst.1
          rw [replaceAll_substitution_cons hdollar, ih, escapeOnward_of_not_needsEscape hplain]

/-! ## Texts in a row -/

/-- That two texts in a row meet in the middle of a mark that starts a substitution. -/
def MeetInMark (first second : List Char) : Prop :=
  first.getLast? = some '$' ∧ second.head? = some '\x7b'

instance (first second : List Char) : Decidable (MeetInMark first second) := by
  unfold MeetInMark
  infer_instance

variable {char : Char} {first second : List Char}

/-- Only the last character of a text can be escaped for what stands behind the text. -/
theorem needsEscape_append (hmeet : ¬ MeetInMark (char :: first) second) :
    needsEscape char (first ++ second) ↔ needsEscape char first := by
  cases first with
  | nil =>
      have hmark : ¬ (char = '$' ∧ second.head? = some '\x7b') := by
        simpa [MeetInMark] using hmeet
      simp [needsEscape, hmark]
  | cons next rest => simp [needsEscape]

/-- Texts in a row are escaped one by one, unless they meet in the middle of a mark. -/
theorem escapeOnward_append (hmeet : ¬ MeetInMark first second) :
    escapeOnward (first ++ second) = escapeOnward first ++ escapeOnward second := by
  induction first with
  | nil => rfl
  | cons char rest ih =>
      have hsame := needsEscape_append hmeet
      have hrest : ¬ MeetInMark rest second := by
        rintro ⟨hlast, hhead⟩
        apply hmeet
        rw [MeetInMark, List.getLast?_cons, hlast]
        exact ⟨rfl, hhead⟩
      rw [List.cons_append]
      by_cases hescape : needsEscape char rest
      · rw [escapeOnward_of_needsEscape (hsame.mpr hescape), escapeOnward_of_needsEscape hescape,
          ih hrest]
        rfl
      · rw [escapeOnward_of_not_needsEscape (mt hsame.mp hescape),
          escapeOnward_of_not_needsEscape hescape, ih hrest]
        rfl

/-- A mark that two texts meet in is escaped when they stand in a row, and not before. -/
theorem escapeOnward_of_meetInMark (hmeet : MeetInMark first second) :
    ∃ front, first = front ++ ['$'] ∧ escapeOnward first = escapeOnward front ++ ['$'] ∧
      escapeOnward (first ++ second) =
        escapeOnward front ++ '\\' :: '$' :: escapeOnward second := by
  obtain ⟨hlast, hhead⟩ := hmeet
  obtain ⟨front, rfl⟩ := List.getLast?_eq_some_iff.mp hlast
  have hfront : ∀ rest : List Char, ¬ MeetInMark front ('$' :: rest) := by
    rintro rest ⟨_, hbrace⟩
    simp at hbrace
  have hescape : needsEscape '$' second := .inr (.inr ⟨rfl, hhead⟩)
  refine ⟨front, rfl, ?_, ?_⟩
  · rw [escapeOnward_append (hfront [])]
    rfl
  · rw [List.append_assoc, List.singleton_append, escapeOnward_append (hfront second),
      escapeOnward_of_needsEscape hescape]

/-- Texts in a row are escaped one by one exactly when they do not meet in the middle of a mark:
where they do, one backslash is missing. -/
theorem escapeOnward_append_iff :
    escapeOnward (first ++ second) = escapeOnward first ++ escapeOnward second ↔
      ¬ MeetInMark first second := by
  refine ⟨?_, escapeOnward_append⟩
  intro heq hmeet
  obtain ⟨front, _, hfirst, happend⟩ := escapeOnward_of_meetInMark hmeet
  have hlength := congrArg List.length heq
  rw [happend, hfirst] at hlength
  simp only [List.length_append, List.length_cons, List.length_nil] at hlength
  omega

/-- Three replacements, one after the other, are one pass. -/
theorem escapeTemplateLiteral_eq_escapeOnward (text : String) :
    escapeTemplateLiteral text = String.ofList (escapeOnward text.toList) := by
  rw [escapeTemplateLiteral, escapeTemplateChars_eq_escapeOnward]

/-- Escaping is one pass from left to right. So texts in a row are escaped one by one, except where
one ends with a dollar sign and the next begins with a brace: there the sign is escaped only when
both are escaped as one text. -/
theorem escaping_in_one_pass :
    (∀ text, escapeTemplateLiteral text = String.ofList (escapeOnward text.toList)) ∧
    (∀ first second : String,
      escapeTemplateLiteral (first ++ second) =
          escapeTemplateLiteral first ++ escapeTemplateLiteral second ↔
        ¬ MeetInMark first.toList second.toList) ∧
    ∀ first second : String, MeetInMark first.toList second.toList →
      ∃ front, first = front ++ "$" ∧
        escapeTemplateLiteral first ++ escapeTemplateLiteral second =
          escapeTemplateLiteral front ++ "$" ++ escapeTemplateLiteral second ∧
        escapeTemplateLiteral (first ++ second) =
          escapeTemplateLiteral front ++ "\\$" ++ escapeTemplateLiteral second := by
  refine ⟨escapeTemplateLiteral_eq_escapeOnward, ?_, ?_⟩
  · intro first second
    simp only [escapeTemplateLiteral_eq_escapeOnward, String.toList_append, ← String.ofList_append,
      String.ofList_inj, escapeOnward_append_iff]
  · intro first second hmeet
    obtain ⟨front, hfront, hfirst, happend⟩ := escapeOnward_of_meetInMark hmeet
    refine ⟨String.ofList front, ?_, ?_, ?_⟩
    · apply String.toList_inj.mp
      simp [hfront]
    · simp [escapeTemplateLiteral_eq_escapeOnward, hfirst]
    · apply String.toList_inj.mp
      simp [escapeTemplateLiteral_eq_escapeOnward, happend]

/-- A dollar sign at the end of a text and a brace at the beginning of the next one are escaped
only where they have become one text. -/
theorem escaping_of_split_mark :
    MeetInMark "\\$".toList "\x7b\x60".toList ∧
      escapeTemplateLiteral "\\$" ++ escapeTemplateLiteral "\x7b\x60" = "\\\\$\x7b\\\x60" ∧
      escapeTemplateLiteral ("\\$" ++ "\x7b\x60") = "\\\\\\$\x7b\\\x60" := by
  have hmeet : MeetInMark "\\$".toList "\x7b\x60".toList := by decide
  obtain ⟨front, hfront, hapart, htogether⟩ := escaping_in_one_pass.2.2 "\\$" "\x7b\x60" hmeet
  obtain rfl : front = "\\" := (String.append_left_inj "$").mp hfront.symm
  refine ⟨hmeet, ?_, ?_⟩
  · rw [hapart]
    decide
  · rw [htogether]
    decide

end ActionHandler.Handler
