import ActionHandler.Text.LineEnding
import Mathlib.Data.List.Basic

/-! # Lines of a text

What stands between two fixed texts on a line can be looked for from the first line on or
from the last line back. What stands in front of a text does not reach beyond its first line.
The last line that begins in a given way can be found by the characters that lines begin with.
-/

namespace ActionHandler.Text

variable {front back line word : List Char}

/-- What stands on a line between its beginning and its end. -/
def between? (front back line : List Char) : Option (List Char) :=
  (line.dropPrefix? front).bind (·.dropSuffix? back)

/-- What stands between two texts on the first line where something does. -/
def firstBetween? (front back text : List Char) : Option (List Char) :=
  (text.splitOn '\n').findSome? (between? front back)

/-- What stands between two texts on the last line where something does. -/
def lastBetween? (front back text : List Char) : Option (List Char) :=
  (text.splitOn '\n').reverse.findSome? (between? front back)

/-- A line has a word between two parts when it is made of the three. -/
theorem between?_eq_some_iff :
    between? front back line = some word ↔ line = front ++ (word ++ back) := by
  simp only [between?, Option.bind_eq_some_iff, List.dropPrefix?_eq_some_iff,
    List.dropSuffix?_eq_some_iff, beq_iff_eq]
  constructor
  · rintro ⟨_, ⟨_, rfl, rfl⟩, _, rfl, rfl⟩
    rfl
  · rintro rfl
    exact ⟨_, ⟨_, rfl, rfl⟩, _, rfl, rfl⟩

/-- What is put in front of a text with several lines leaves all but the first alone. -/
theorem splitOn_append {α : Type} [DecidableEq α] {mark : α} {text first : List α}
    {others : List (List α)} (htext : text.splitOn mark = first :: others) (front : List α) :
    ∃ earlier, earlier ≠ [] ∧ (front ++ text).splitOn mark = earlier ++ others := by
  induction front with
  | nil => exact ⟨[first], by simp, by simpa using htext⟩
  | cons char rest ih =>
      obtain ⟨earlier, hearlier, hrest⟩ := ih
      rw [List.cons_append, List.splitOn_cons_eq_if_modifyHead, hrest]
      obtain ⟨next, later, rfl⟩ := List.exists_cons_of_ne_nil hearlier
      split
      next => exact ⟨[] :: next :: later, by simp, rfl⟩
      next => exact ⟨(char :: next) :: later, by simp, rfl⟩

/-- What has no mark in it stands in front of the first part. -/
theorem splitOn_append_of_not_mem {α : Type} [DecidableEq α] {mark : α} {front : List α}
    (hfront : mark ∉ front) (text : List α) :
    (front ++ text).splitOn mark = (text.splitOn mark).modifyHead (front ++ ·) := by
  induction front with
  | nil =>
      rw [List.nil_append]
      cases text.splitOn mark <;> rfl
  | cons char rest ih =>
      have hchar : (char == mark) = false := by
        simpa using fun heq => hfront (by simp [heq])
      have hrest : mark ∉ rest := fun hmem => hfront (List.mem_cons_of_mem char hmem)
      rw [List.cons_append, List.splitOn_cons_eq_if_modifyHead, ih hrest, hchar,
        if_neg Bool.false_ne_true]
      cases text.splitOn mark <;> rfl

/-- The first line is looked at before the others. -/
theorem firstBetween?_append (hline : '\n' ∉ line) (text : List Char) :
    firstBetween? front back (line ++ '\n' :: text) =
      (between? front back line).or (firstBetween? front back text) := by
  rw [firstBetween?, List.splitOn_append_cons_self_of_not_mem hline, List.findSome?_cons]
  cases between? front back line <;> rfl

/-- The last line is looked at before the others. -/
theorem lastBetween?_append (hline : '\n' ∉ line) (text : List Char) :
    lastBetween? front back (text ++ '\n' :: line) =
      (between? front back line).or (lastBetween? front back text) := by
  rw [lastBetween?, List.splitOn_append_cons_self, List.splitOn_eq_singleton hline,
    List.reverse_append, List.reverse_singleton, List.singleton_append, List.findSome?_cons]
  cases between? front back line <;> rfl

/-- What is looked for in a list is found if every item either has it or is missed. -/
theorem findSome?_of_mem {α β : Type} {find : α → Option β} {items : List α} {item : α}
    {value : β} (hitem : item ∈ items) (hvalue : find item = some value)
    (hothers : ∀ other ∈ items, find other = none ∨ find other = some value) :
    items.findSome? find = some value := by
  cases hfound : items.findSome? find with
  | none =>
      rw [List.findSome?_eq_none_iff.mp hfound item hitem] at hvalue
      cases hvalue
  | some found =>
      obtain ⟨other, hother, hfind⟩ := List.exists_of_findSome?_eq_some hfound
      rcases hothers other hother with hnone | hsome
      · rw [hnone] at hfind
        cases hfind
      · rw [← hsome, hfind]

theorem toList_unlines (lines : List String) :
    (unlines lines).toList = lines.flatMap (·.toList ++ ['\n']) := by
  induction lines with
  | nil => rfl
  | cons line rest ih =>
      rw [unlines] at ih ⊢
      rw [List.map_cons, String.join_cons, String.toList_append, String.toList_append, ih]
      rfl

/-! ## How lines begin -/

/-- The text behind the last place where a line begins with a given text. `atStart` says that
a line begins where the text does. -/
def behindLastLine? (start : List Char) (atStart : Bool) : List Char → Option (List Char)
  | [] => none
  | char :: rest =>
      (behindLastLine? start (char == '\n') rest).or
        (if atStart then (char :: rest).dropPrefix? start else none)

/-- The characters that lines begin with. -/
def lineStarts (atStart : Bool) : List Char → List Char
  | [] => []
  | char :: rest => (if atStart then [char] else []) ++ lineStarts (char == '\n') rest

/-- Whether a line begins behind a text. -/
def startsLine (atStart : Bool) (text : List Char) : Bool :=
  (text.getLast?.map (· == '\n')).getD atStart

theorem startsLine_cons (atStart : Bool) (char : Char) (rest : List Char) :
    startsLine atStart (char :: rest) = startsLine (char == '\n') rest := by
  cases rest with
  | nil => rfl
  | cons next rest =>
      have hlast := List.getLast?_eq_some_getLast (List.cons_ne_nil next rest)
      rw [startsLine, startsLine, List.getLast?_cons_cons, hlast]
      rfl

/-- The first characters of the lines of a text are those of its two parts. -/
theorem lineStarts_append (atStart : Bool) (first second : List Char) :
    lineStarts atStart (first ++ second) =
      lineStarts atStart first ++ lineStarts (startsLine atStart first) second := by
  induction first generalizing atStart with
  | nil => rfl
  | cons char rest ih =>
      rw [List.cons_append, lineStarts, lineStarts, ih, startsLine_cons, List.append_assoc]

theorem startsLine_append (atStart : Bool) (first second : List Char) :
    startsLine atStart (first ++ second) = startsLine (startsLine atStart first) second := by
  induction first generalizing atStart with
  | nil => rfl
  | cons char rest ih => rw [List.cons_append, startsLine_cons, startsLine_cons, ih]

/-- A text without line ends goes on with a line and begins none. -/
theorem lineStarts_of_not_mem {text : List Char} (htext : '\n' ∉ text) :
    lineStarts false text = [] ∧ startsLine false text = false := by
  induction text with
  | nil => exact ⟨rfl, rfl⟩
  | cons char rest ih =>
      have hchar : (char == '\n') = false := by
        simpa using fun heq => htext (by simp [heq])
      have hrest := ih fun hmem => htext (List.mem_cons_of_mem char hmem)
      rw [lineStarts, startsLine_cons, hchar]
      simpa using hrest

/-- That a text goes on with a line, ends within one, and begins none with a character. -/
structure GoesOn (char : Char) (text : List Char) : Prop where
  starts : char ∉ lineStarts false text
  ends : startsLine false text = false

namespace GoesOn

variable {char : Char} {first second : List Char}

/-- A text without line feeds starts no line. -/
theorem of_not_mem {text : List Char} (htext : '\n' ∉ text) : GoesOn char text where
  starts := by
    rw [(lineStarts_of_not_mem htext).1]
    exact List.not_mem_nil
  ends := (lineStarts_of_not_mem htext).2

/-- Two texts that start no line with a character start none together. -/
theorem append (hfirst : GoesOn char first) (hsecond : GoesOn char second) :
    GoesOn char (first ++ second) where
  starts := by
    rw [lineStarts_append, hfirst.ends, List.mem_append, not_or]
    exact ⟨hfirst.starts, hsecond.starts⟩
  ends := by
    rw [startsLine_append, hfirst.ends, hsecond.ends]

/-- Words and a separator that start no line with a character start none together. -/
theorem intercalate {separator : List Char} {words : List (List Char)}
    (hseparator : GoesOn char separator) (hwords : ∀ word ∈ words, GoesOn char word) :
    GoesOn char (separator.intercalate words) := by
  induction words with
  | nil => exact of_not_mem List.not_mem_nil
  | cons word rest ih =>
      obtain ⟨hword, hrest⟩ := List.forall_mem_cons.mp hwords
      cases rest with
      | nil => simpa using hword
      | cons next rest =>
          rw [List.intercalate_cons_cons]
          exact (hword.append hseparator).append (ih hrest)

end GoesOn

/-- Where no line starts with the first character, no line starts with the text. -/
theorem behindLastLine?_of_not_mem {char : Char} {start text : List Char} {atStart : Bool}
    (htext : char ∉ lineStarts atStart text) :
    behindLastLine? (char :: start) atStart text = none := by
  induction text generalizing atStart with
  | nil => rfl
  | cons first rest ih =>
      rw [lineStarts, List.mem_append, not_or] at htext
      rw [behindLastLine?, ih htext.2]
      split
      next hstart =>
        have hne : char ≠ first := by simpa [hstart] using htext.1
        rw [Option.none_or, List.dropPrefix?, if_neg (by simpa using Ne.symm hne)]
      next => rfl

/-- A line further back does not count when there is a later one. -/
theorem behindLastLine?_of_some {start text rest : List Char} {atStart : Bool}
    (hrest : behindLastLine? start true text = some rest) (front : List Char) :
    behindLastLine? start atStart (front ++ '\n' :: text) = some rest := by
  induction front generalizing atStart with
  | nil =>
      rw [List.nil_append, behindLastLine?, beq_self_eq_true, hrest]
      rfl
  | cons char front ih =>
      rw [List.cons_append, behindLastLine?, ih]
      rfl

/-- The last line that begins with a text is found whatever stands in front of it. -/
theorem behindLastLine?_append {char : Char} {start rest : List Char}
    (hstart : '\n' ∉ char :: start) (hrest : char ∉ lineStarts false rest) (atStart : Bool)
    (front : List Char) :
    behindLastLine? (char :: start) atStart (front ++ '\n' :: (char :: start ++ rest)) =
      some rest := by
  apply behindLastLine?_of_some
  rw [List.mem_cons, not_or] at hstart
  obtain ⟨hne, hothers⟩ := hstart
  have hchar : (char == '\n') = false := beq_eq_false_iff_ne.mpr (Ne.symm hne)
  obtain ⟨hnone, hends⟩ := lineStarts_of_not_mem hothers
  have hlater : char ∉ lineStarts false (start ++ rest) := by
    rw [lineStarts_append, hnone, hends]
    exact hrest
  have hdrop : (char :: (start ++ rest)).dropPrefix? (char :: start) = some rest := by
    rw [List.dropPrefix?_eq_some_iff]
    exact ⟨char :: start, rfl, by simp⟩
  rw [List.cons_append, behindLastLine?, hchar, behindLastLine?_of_not_mem hlater, if_pos rfl,
    hdrop]
  rfl

end ActionHandler.Text
