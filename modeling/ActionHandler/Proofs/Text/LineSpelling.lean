import ActionHandler.Proofs.Text.LineEnding
import ActionHandler.Text.Replace

/-! # Spellings of line ends

Unifying line endings is the same as two replacements: first of each carriage return that a line
feed follows, together with it, and then of each carriage return that is left. It leaves no
carriage return, keeps every character that ends no line, and undoes every way to spell the
line feeds of a text.
-/

namespace ActionHandler.Text

variable {char : Char} {text rest : List Char}

/-- A character that is no carriage return is kept. -/
theorem unifyLineEndings_cons (hchar : char ≠ '\r') :
    unifyLineEndings (char :: rest) = char :: unifyLineEndings rest := by
  simp [unifyLineEndings, unifyLineEndingsFrom, hchar]

/-- A carriage return takes the line feed with it that follows it. -/
theorem unifyLineEndings_pair :
    unifyLineEndings ('\r' :: '\n' :: rest) = '\n' :: unifyLineEndings rest := by
  simp [unifyLineEndings, unifyLineEndingsFrom]

/-- A carriage return without a line feed behind it becomes a line feed. -/
theorem unifyLineEndings_return (hrest : rest.head? ≠ some '\n') :
    unifyLineEndings ('\r' :: rest) = '\n' :: unifyLineEndings rest := by
  cases rest with
  | nil => rfl
  | cons next rest =>
      have hnext : next ≠ '\n' := by simpa using hrest
      simp [unifyLineEndings, unifyLineEndingsFrom, hnext]

/-- The texts with a step of the unification for each way in which they can begin. -/
theorem lineEndings_induction {motive : List Char → Prop} (nil : motive [])
    (char : ∀ char rest, char ≠ '\r' → motive rest → motive (char :: rest))
    (pair : ∀ rest, motive rest → motive ('\r' :: '\n' :: rest))
    (lone : ∀ rest, rest.head? ≠ some '\n' → motive rest → motive ('\r' :: rest)) :
    ∀ text, motive text
  | [] => nil
  | [first] => by
      by_cases hfirst : first = '\r'
      · subst hfirst
        exact lone [] (by simp) nil
      · exact char first [] hfirst nil
  | first :: second :: rest => by
      have hrest := lineEndings_induction nil char pair lone rest
      have hsecond := lineEndings_induction nil char pair lone (second :: rest)
      by_cases hfirst : first = '\r'
      · subst hfirst
        by_cases hfeed : second = '\n'
        · subst hfeed
          exact pair rest hrest
        · exact lone (second :: rest) (by simpa using hfeed) hsecond
      · exact char first (second :: rest) hfirst hsecond

theorem replaceAll_pair_cons (hchar : char ≠ '\r') (replacement rest : List Char) :
    replaceAll ['\r', '\n'] replacement (char :: rest) =
      char :: replaceAll ['\r', '\n'] replacement rest := by
  have hmiss : ('\r' == char) = false := beq_false_of_ne hchar.symm
  simp [replaceAll, replaceFrom, List.isPrefixOf, hmiss]

theorem replaceAll_pair (replacement rest : List Char) :
    replaceAll ['\r', '\n'] replacement ('\r' :: '\n' :: rest) =
      replacement ++ replaceAll ['\r', '\n'] replacement rest := by
  simp [replaceAll, replaceFrom, List.isPrefixOf]

theorem replaceAll_pair_return (hrest : rest.head? ≠ some '\n') (replacement : List Char) :
    replaceAll ['\r', '\n'] replacement ('\r' :: rest) =
      '\r' :: replaceAll ['\r', '\n'] replacement rest := by
  cases rest with
  | nil => rfl
  | cons next rest =>
      have hnext : next ≠ '\n' := by simpa using hrest
      have hmiss : ('\n' == next) = false := beq_false_of_ne hnext.symm
      simp [replaceAll, replaceFrom, List.isPrefixOf, hmiss]

/-- Each carriage return with a line feed behind it is replaced, and then each that is left. -/
theorem unifyLineEndings_eq_replaceAll (text : List Char) :
    unifyLineEndings text =
      replaceAll ['\r'] ['\n'] (replaceAll ['\r', '\n'] ['\n'] text) := by
  induction text using lineEndings_induction with
  | nil => rfl
  | char char rest hchar ih =>
      rw [unifyLineEndings_cons hchar, replaceAll_pair_cons hchar, ih, replaceAll_singleton,
        replaceAll_singleton, List.flatMap_cons, if_neg hchar, List.singleton_append]
  | pair rest ih =>
      rw [unifyLineEndings_pair, replaceAll_pair, ih, replaceAll_singleton,
        replaceAll_singleton]
      rfl
  | lone rest hrest ih =>
      rw [unifyLineEndings_return hrest, replaceAll_pair_return hrest, ih, replaceAll_singleton,
        replaceAll_singleton]
      rfl

/-- No carriage return is left. -/
theorem return_not_mem_unifyLineEndings (text : List Char) : '\r' ∉ unifyLineEndings text := by
  induction text using lineEndings_induction with
  | nil => simp [unifyLineEndings, unifyLineEndingsFrom]
  | char char rest hchar ih =>
      rw [unifyLineEndings_cons hchar]
      intro hmem
      rcases List.mem_cons.mp hmem with heq | hmem
      · exact hchar heq.symm
      · exact ih hmem
  | pair rest ih =>
      rw [unifyLineEndings_pair]
      simpa using ih
  | lone rest hrest ih =>
      rw [unifyLineEndings_return hrest]
      simpa using ih

/-- Line endings that have been unified stay as they are. -/
theorem unifyLineEndings_unifyLineEndings (text : List Char) :
    unifyLineEndings (unifyLineEndings text) = unifyLineEndings text :=
  unifyLineEndings_eq_self (return_not_mem_unifyLineEndings text)

/-- Whether a character ends a line or helps to do so. -/
def isLineEnd (char : Char) : Bool :=
  char == '\r' || char == '\n'

/-- Every character that ends no line is kept, and in its place among them. -/
theorem filter_unifyLineEndings (text : List Char) :
    (unifyLineEndings text).filter (!isLineEnd ·) = text.filter (!isLineEnd ·) := by
  induction text using lineEndings_induction with
  | nil => rfl
  | char char rest hchar ih =>
      rw [unifyLineEndings_cons hchar, List.filter_cons, List.filter_cons, ih]
  | pair rest ih =>
      rw [unifyLineEndings_pair]
      simpa [isLineEnd] using ih
  | lone rest hrest ih =>
      rw [unifyLineEndings_return hrest]
      simpa [isLineEnd] using ih

/-- How the lines of a text can end. -/
inductive LineEnding
  | lineFeed
  | carriageReturn
  | pair
  deriving DecidableEq, Repr

/-- The characters of a line ending. -/
def LineEnding.chars : LineEnding → List Char
  | .lineFeed => ['\n']
  | .carriageReturn => ['\r']
  | .pair => ['\r', '\n']

/-- A text with another line ending in the place of each line feed. -/
def LineEnding.spell (ending : LineEnding) (text : List Char) : List Char :=
  replaceAll ['\n'] ending.chars text

/-- Each line feed is spelled on its own. -/
theorem LineEnding.spell_cons (ending : LineEnding) (char : Char) (rest : List Char) :
    ending.spell (char :: rest) =
      (if char = '\n' then ending.chars else [char]) ++ ending.spell rest := by
  simp only [spell, replaceAll_singleton, List.flatMap_cons]

theorem LineEnding.head?_spell_carriageReturn (text : List Char) :
    (carriageReturn.spell text).head? ≠ some '\n' := by
  cases text with
  | nil => simp [spell, replaceAll, replaceFrom]
  | cons char rest =>
      rw [spell_cons]
      by_cases hfeed : char = '\n'
      · simp [hfeed, chars]
      · simp [hfeed]

/-- However its lines end, a text reads the same. -/
theorem LineEnding.unifyLineEndings_spell (ending : LineEnding) (htext : '\r' ∉ text) :
    unifyLineEndings (ending.spell text) = text := by
  induction text with
  | nil => rfl
  | cons char rest ih =>
      obtain ⟨hchar, hrest⟩ := not_or.mp (mt List.mem_cons.mpr htext)
      rw [spell_cons]
      by_cases hfeed : char = '\n'
      · subst hfeed
        rw [if_pos rfl]
        cases ending with
        | lineFeed =>
            rw [chars, List.singleton_append, unifyLineEndings_cons (by decide), ih hrest]
        | carriageReturn =>
            rw [chars, List.singleton_append,
              unifyLineEndings_return (head?_spell_carriageReturn rest), ih hrest]
        | pair =>
            rw [chars, List.cons_append, List.singleton_append, unifyLineEndings_pair, ih hrest]
      · rw [if_neg hfeed, List.singleton_append, unifyLineEndings_cons (Ne.symm hchar), ih hrest]

end ActionHandler.Text
