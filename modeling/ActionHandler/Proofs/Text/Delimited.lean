import Mathlib.Data.List.Basic

/-! # Delimited text

A text that does not contain a mark ends where the mark stands, read forwards or backwards.
So words without the mark can be told from each other when it stands between them.
-/

namespace ActionHandler.Text

variable {mark : Char}

/-- A text without a mark is determined by what stands in front of the first mark. -/
theorem append_mark_inj {first second rest rest' : List Char} (hfirst : mark ∉ first)
    (hsecond : mark ∉ second) (heq : first ++ mark :: rest = second ++ mark :: rest') :
    first = second ∧ rest = rest' := by
  induction first generalizing second with
  | nil =>
      cases second with
      | nil => exact ⟨rfl, List.tail_eq_of_cons_eq heq⟩
      | cons char tail =>
          -- The second text would begin with the mark.
          have hchar : mark = char := List.head_eq_of_cons_eq heq
          exact absurd (by simp [hchar]) hsecond
  | cons char tail ih =>
      cases second with
      | nil =>
          have hchar : char = mark := List.head_eq_of_cons_eq heq
          exact absurd (by simp [hchar]) hfirst
      | cons other others =>
          obtain ⟨hchar, htail⟩ := List.cons.inj heq
          have htail' : mark ∉ tail := fun hmem => hfirst (List.mem_cons_of_mem char hmem)
          have hothers : mark ∉ others := fun hmem => hsecond (List.mem_cons_of_mem other hmem)
          obtain ⟨rfl, hrest⟩ := ih htail' hothers htail
          exact ⟨by rw [hchar], hrest⟩

/-- A text without a mark is determined by what stands behind the last mark. -/
theorem append_mark_inj_right {first second rest rest' : List Char} (hrest : mark ∉ rest)
    (hrest' : mark ∉ rest') (heq : first ++ mark :: rest = second ++ mark :: rest') :
    first = second ∧ rest = rest' := by
  have hreverse : rest.reverse ++ mark :: first.reverse =
      rest'.reverse ++ mark :: second.reverse := by
    have hboth := congrArg List.reverse heq
    simpa using hboth
  obtain ⟨hend, hfront⟩ := append_mark_inj (by simpa using hrest) (by simpa using hrest') hreverse
  exact ⟨List.reverse_injective hfront, List.reverse_injective hend⟩

section

variable {α : Type} {p : α → Bool} {word rest : List α}

/-- What a predicate holds of is read up to the first item that it does not hold of. -/
theorem takeWhile_append_of_end (hword : ∀ item ∈ word, p item = true)
    (hrest : ∀ item, rest.head? = some item → p item = false) :
    (word ++ rest).takeWhile p = word := by
  rw [List.takeWhile_append_of_pos hword]
  cases rest with
  | nil => simp
  | cons first others =>
      rw [List.takeWhile_cons_of_neg (by simp [hrest first rfl]), List.append_nil]

/-- Behind a word stands what does not belong to it. -/
theorem dropWhile_append_of_end (hword : ∀ item ∈ word, p item = true)
    (hrest : ∀ item, rest.head? = some item → p item = false) :
    (word ++ rest).dropWhile p = rest := by
  have hsplit := List.takeWhile_append_dropWhile (p := p) (l := word ++ rest)
  rw [takeWhile_append_of_end hword hrest] at hsplit
  exact List.append_cancel_left hsplit

end

/-- In front of a mark stands all that has no mark in it. -/
theorem takeWhile_append_mark {front : List Char} (hfront : mark ∉ front) (rest : List Char) :
    (front ++ mark :: rest).takeWhile (· != mark) = front := by
  apply takeWhile_append_of_end
  · intro char hchar
    rw [bne_iff_ne]
    rintro rfl
    exact hfront hchar
  · simp

theorem dropWhile_append_mark {front : List Char} (hfront : mark ∉ front) (rest : List Char) :
    (front ++ mark :: rest).dropWhile (· != mark) = mark :: rest := by
  have hsplit := List.takeWhile_append_dropWhile (p := (· != mark)) (l := front ++ mark :: rest)
  rw [takeWhile_append_mark hfront] at hsplit
  exact List.append_cancel_left hsplit

/-- No part of a text that is split at a mark has the mark in it. -/
theorem not_mem_of_mem_splitOn {α : Type} [DecidableEq α] {mark : α} {text part : List α}
    (hpart : part ∈ text.splitOn mark) : mark ∉ part := by
  induction text generalizing part with
  | nil =>
      rw [List.splitOn_nil, List.mem_singleton] at hpart
      simp [hpart]
  | cons char rest ih =>
      rw [List.splitOn_cons_eq_if_modifyHead] at hpart
      split at hpart
      next =>
        rcases List.mem_cons.mp hpart with rfl | hrest
        · exact List.not_mem_nil
        · exact ih hrest
      next hchar =>
        obtain ⟨first, others, hsplit⟩ := List.exists_cons_of_ne_nil (List.splitOn_ne_nil mark rest)
        rw [hsplit] at hpart ih
        rcases List.mem_cons.mp hpart with rfl | hothers
        · have hmark : mark ≠ char := by
            rintro rfl
            simp at hchar
          simp [hmark, ih List.mem_cons_self]
        · exact ih (List.mem_cons_of_mem first hothers)

/-- A mark that is not in the separator is in one of the words. -/
theorem mem_intercalate_iff {α : Type} {mark : α} {separator : List α} {words : List (List α)}
    (hseparator : mark ∉ separator) :
    mark ∈ separator.intercalate words ↔ ∃ word ∈ words, mark ∈ word := by
  induction words with
  | nil => simp
  | cons word rest ih =>
      by_cases hnil : rest = []
      · subst hnil
        simp
      · rw [List.intercalate_cons_of_ne_nil hnil]
        simp [hseparator, ih]

/-- Words that are not empty and do not contain a mark can be told from their text with a
separator between them that begins with the mark. -/
theorem intercalate_inj {separator : List Char} {first second : List (List Char)}
    (hfirst : ∀ word ∈ first, word ≠ [] ∧ mark ∉ word)
    (hsecond : ∀ word ∈ second, word ≠ [] ∧ mark ∉ word)
    (heq : (mark :: separator).intercalate first = (mark :: separator).intercalate second) :
    first = second := by
  induction first generalizing second with
  | nil =>
      cases second with
      | nil => rfl
      | cons word rest =>
          have hword := (hsecond word List.mem_cons_self).1
          cases rest with
          | nil => simp [eq_comm, hword] at heq
          | cons next rest => simp at heq
  | cons word words ih =>
      obtain ⟨hword, hmark⟩ := hfirst word List.mem_cons_self
      cases second with
      | nil =>
          cases words with
          | nil => simp [hword] at heq
          | cons next words => simp at heq
      | cons other others =>
          obtain ⟨hother, hmark'⟩ := hsecond other List.mem_cons_self
          have hwords : ∀ next ∈ words, next ≠ [] ∧ mark ∉ next :=
            fun next hmem => hfirst next (List.mem_cons_of_mem word hmem)
          have hothers : ∀ next ∈ others, next ≠ [] ∧ mark ∉ next :=
            fun next hmem => hsecond next (List.mem_cons_of_mem other hmem)
          by_cases hnil : words = []
          · subst hnil
            by_cases hnil' : others = []
            · subst hnil'
              simpa using heq
            -- The mark of the separator would have to be in the only word.
            · rw [List.intercalate_singleton, List.intercalate_cons_of_ne_nil hnil'] at heq
              exact absurd (by simp [heq]) hmark
          · by_cases hnil' : others = []
            · subst hnil'
              rw [List.intercalate_singleton, List.intercalate_cons_of_ne_nil hnil] at heq
              exact absurd (by simp [← heq]) hmark'
            · rw [List.intercalate_cons_of_ne_nil hnil, List.intercalate_cons_of_ne_nil hnil',
                List.append_assoc, List.append_assoc] at heq
              obtain ⟨rfl, hrest⟩ := append_mark_inj hmark hmark' heq
              rw [ih hwords hothers (List.append_cancel_left hrest)]

end ActionHandler.Text
