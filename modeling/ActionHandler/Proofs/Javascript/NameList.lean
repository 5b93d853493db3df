import ActionHandler.Proofs.Handler.Literals

/-! # Lists of names

How JavaScript reads an object pattern, or an object of shorthand members: names with commas
between them, in braces. Blanks and line ends around a name do not count.

The object pattern for the arguments of an action and the object of the variables of an
operation read back to the names that they are made of, whatever text follows.
-/

namespace ActionHandler.Javascript

open Graphql Handler Text

variable {name : String} {names : List String} {lead trail word rest : List Char}
  {words : List (List Char)}

/-- The blanks and line ends that JavaScript knows. -/
def blanks : List Char :=
  [' ', '\t', '\n', '\x0b', '\x0c', '\r', '\u00a0', '\u2028', '\u2029', '\ufeff']

/-- Whether a character may stand between two words without being read. -/
def isBlank (char : Char) : Bool :=
  blanks.contains char

/-- Leaves out the blanks at both ends of a text. -/
def trim (text : List Char) : List Char :=
  ((text.dropWhile isBlank).reverse.dropWhile isBlank).reverse

/-- Whether a text is an identifier, written without characters outside ASCII. -/
def isIdentifier : List Char → Bool
  | [] => false
  | first :: rest =>
      (isNameStart first || first == '$') && rest.all fun char => isNameContinue char || char == '$'

/-- The words of a text with commas between them. Blanks alone are no word. -/
def wordsOf (text : List Char) : List (List Char) :=
  let words := (text.splitOn ',').map trim
  if words = [[]] then [] else words

/-- Reads names in braces, and gives the text behind the closing brace. -/
def readNames? : List Char → Option (List String × List Char)
  | '\x7b' :: text =>
      match text.dropWhile (· != '\x7d') with
      | [] => none
      | _ :: rest =>
          let words := wordsOf (text.takeWhile (· != '\x7d'))
          if words.all isIdentifier then some (words.map String.ofList, rest) else none
  | _ => none

/-- That a text begins and ends with something else than a blank. -/
structure IsTrimmed (word : List Char) : Prop where
  first : ∀ char, word.head? = some char → isBlank char = false
  last : ∀ char, word.getLast? = some char → isBlank char = false

/-- That a text is nothing but blanks. -/
def AllBlank (text : List Char) : Prop :=
  ∀ char ∈ text, isBlank char = true

namespace AllBlank

theorem nil : AllBlank [] :=
  fun _ hchar => absurd hchar List.not_mem_nil

theorem space : AllBlank [' '] :=
  List.all_eq_true.mp (by decide)

theorem append (hlead : AllBlank lead) (htrail : AllBlank trail) : AllBlank (lead ++ trail) := by
  intro char hchar
  exact (List.mem_append.mp hchar).elim (hlead char) (htrail char)

theorem reverse (hlead : AllBlank lead) : AllBlank lead.reverse :=
  fun char hchar => hlead char (List.mem_reverse.mp hchar)

theorem not_mem (hlead : AllBlank lead) {mark : Char} (hmark : isBlank mark = false) :
    mark ∉ lead := by
  intro hmem
  rw [hlead mark hmem] at hmark
  cases hmark

end AllBlank

theorem dropWhile_isBlank (hlead : AllBlank lead)
    (hrest : ∀ char, rest.head? = some char → isBlank char = false) :
    (lead ++ rest).dropWhile isBlank = rest :=
  dropWhile_append_of_end hlead hrest

/-- Blanks around a word are left out, and no others. -/
theorem trim_of_blanks (hlead : AllBlank lead)
    (htrail : AllBlank trail) (hword : IsTrimmed word) :
    trim (lead ++ (word ++ trail)) = word := by
  have hlast : ∀ char, word.reverse.head? = some char → isBlank char = false := by
    intro char hchar
    exact hword.last char (by rw [List.getLast?_eq_head?_reverse, hchar])
  cases word with
  | nil =>
      have hnone : (lead ++ trail).dropWhile isBlank = [] := by
        simpa using dropWhile_isBlank (hlead.append htrail)
          (show ∀ char, [].head? = some char → _ by simp)
      rw [List.nil_append, trim, hnone]
      rfl
  | cons first others =>
      have hfirst : ∀ char, (first :: others ++ trail).head? = some char →
          isBlank char = false := fun char hchar => hword.first char hchar
      rw [trim, dropWhile_isBlank hlead hfirst, List.reverse_append,
        dropWhile_isBlank htrail.reverse hlast, List.reverse_reverse]

/-- Words are found again when commas and blanks are put between them. -/
theorem map_trim_splitOn (separator : List Char) (hnil : words ≠ [])
    (hlead : AllBlank lead) (htrail : AllBlank trail)
    (hseparator : AllBlank separator)
    (hwords : ∀ word ∈ words, ',' ∉ word ∧ IsTrimmed word) :
    ((lead ++ ((',' :: separator).intercalate words ++ trail)).splitOn ',').map trim = words := by
  have hcomma : ∀ {blanks : List Char}, AllBlank blanks → ',' ∉ blanks :=
    fun hblanks => hblanks.not_mem (by decide)
  induction words generalizing lead with
  | nil => exact absurd rfl hnil
  | cons word rest ih =>
      obtain ⟨hmark, htrimmed⟩ := hwords word List.mem_cons_self
      cases rest with
      | nil =>
          have hnone : ',' ∉ lead ++ (word ++ trail) := by
            simp [hcomma hlead, hcomma htrail, hmark]
          rw [List.intercalate_singleton, List.splitOn_eq_singleton hnone, List.map_singleton,
            trim_of_blanks hlead htrail htrimmed]
      | cons next rest =>
          have hfront : ',' ∉ lead ++ word := by simp [hcomma hlead, hmark]
          have hsplit : lead ++ ((',' :: separator).intercalate (word :: next :: rest) ++ trail) =
              (lead ++ word) ++
                ',' :: (separator ++ ((',' :: separator).intercalate (next :: rest) ++ trail)) := by
            simp [List.intercalate_cons_cons]
          have hfirst : trim (lead ++ word) = word := by
            simpa using trim_of_blanks hlead .nil htrimmed
          rw [hsplit, List.splitOn_append_cons_self_of_not_mem hfront, List.map_cons, hfirst,
            ih (List.cons_ne_nil next rest) hseparator fun word hmem =>
              hwords word (List.mem_cons_of_mem _ hmem)]

theorem isBlank_of_isNameContinue {char : Char} (hchar : isNameContinue char = true) :
    isBlank char = false := by
  have hblanks : blanks.all (fun blank => !isNameContinue blank) = true := by decide
  cases hblank : isBlank char with
  | false => rfl
  | true =>
      rw [isBlank, List.contains_iff_mem] at hblank
      have hother := List.all_eq_true.mp hblanks char hblank
      rw [hchar] at hother
      cases hother

theorem isTrimmed_of_isName (hname : IsName name) : IsTrimmed name.toList where
  first _ hchar :=
    isBlank_of_isNameContinue (hname.isNameContinue_of_mem (List.mem_of_head? hchar))
  last _ hchar :=
    isBlank_of_isNameContinue (hname.isNameContinue_of_mem (List.mem_of_getLast? hchar))

theorem isIdentifier_of_isName (hname : IsName name) : isIdentifier name.toList = true := by
  unfold IsName at hname
  cases hlist : name.toList with
  | nil => simp [hlist, isNameText] at hname
  | cons first rest =>
      simp only [hlist, isNameText, Bool.and_eq_true, List.all_eq_true] at hname
      simp only [isIdentifier, Bool.and_eq_true, List.all_eq_true, Bool.or_eq_true]
      exact ⟨.inl hname.1, fun char hchar => .inl (hname.2 char hchar)⟩

theorem wordsOf_namesBetween (hnames : ∀ name ∈ names, IsName name)
    (hlead : AllBlank lead) (htrail : AllBlank trail) :
    wordsOf (lead ++ (namesBetween names ++ trail)) = names.map String.toList := by
  cases names with
  | nil =>
      have hcomma : ',' ∉ lead ++ ([] ++ trail) := by
        rw [List.nil_append]
        exact (hlead.append htrail).not_mem (by decide)
      have hempty : IsTrimmed [] := ⟨by simp, by simp⟩
      have hbetween : namesBetween [] = [] := rfl
      rw [wordsOf, hbetween, List.splitOn_eq_singleton hcomma, List.map_singleton,
        trim_of_blanks hlead htrail hempty]
      rfl
  | cons name others =>
      have hwords : ∀ word ∈ (name :: others).map String.toList, ',' ∉ word ∧ IsTrimmed word := by
        intro word hword
        obtain ⟨name, hname, rfl⟩ := List.mem_map.mp hword
        exact ⟨(hnames name hname).not_mem (by decide), isTrimmed_of_isName (hnames name hname)⟩
      have hsplit := map_trim_splitOn [' '] (by simp) hlead htrail .space hwords
      have hne : (name :: others).map String.toList ≠ [[]] := by
        simp [(hnames name List.mem_cons_self).toList_ne_nil]
      rw [wordsOf, namesBetween, hsplit, if_neg hne]

/-- Names in braces are read back, whatever blanks stand around them and whatever follows. -/
theorem readNames?_namesBetween (lead trail : List Char) (hnames : ∀ name ∈ names, IsName name)
    (hlead : AllBlank lead) (htrail : AllBlank trail) (rest : List Char) :
    readNames? ('\x7b' :: (lead ++ (namesBetween names ++ trail)) ++ '\x7d' :: rest) =
      some (names, rest) := by
  have hinside : '\x7d' ∉ lead ++ (namesBetween names ++ trail) := by
    have hbetween := not_mem_namesBetween hnames '\x7d' (by decide) (by decide)
    have hblank : ∀ {blanks : List Char}, AllBlank blanks → '\x7d' ∉ blanks :=
      fun hblanks => hblanks.not_mem (by decide)
    simp [hblank hlead, hblank htrail, hbetween]
  have hidentifiers : (names.map String.toList).all isIdentifier = true := by
    rw [List.all_map, List.all_eq_true]
    exact fun name hname => isIdentifier_of_isName (hnames name hname)
  rw [List.cons_append, readNames?, dropWhile_append_mark hinside, takeWhile_append_mark hinside]
  simp only [wordsOf_namesBetween hnames hlead htrail, hidentifiers, if_true, List.map_map]
  simp [Function.comp_def]

theorem readNames?_destructurePattern (hnames : ∀ name ∈ names, IsName name) (rest : List Char) :
    readNames? ((destructurePattern names).toList ++ rest) = some (names, rest) := by
  have hread := readNames?_namesBetween [] [] hnames .nil .nil rest
  simpa [toList_destructurePattern] using hread

theorem readNames?_variablesLiteral (hnames : ∀ name ∈ names, IsName name) (rest : List Char) :
    readNames? ((variablesLiteral names).toList ++ rest) = some (names, rest) := by
  by_cases hnil : names = []
  · rw [hnil]
    exact readNames?_destructurePattern (fun _ hname => absurd hname List.not_mem_nil) rest
  · have hread := readNames?_namesBetween [' '] [' '] hnames .space .space rest
    simpa [toList_variablesLiteral hnil] using hread

end ActionHandler.Javascript
