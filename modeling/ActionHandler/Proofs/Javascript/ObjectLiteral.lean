import ActionHandler.Proofs.Javascript.Declarations
import Mathlib.Data.List.Forall2
import Mathlib.Data.List.TakeWhile

/-! # Objects with members of one form

How JavaScript reads an object, or an object pattern, whose members are all of one form: members
with commas between them, in braces, with blanks and line ends wherever words and marks meet. A
member is a name, or a name with a text as its value.

The literals of a handler read back to the names that they are made of, and each of them ends at
its own closing brace, whatever text follows.
-/

namespace ActionHandler.Javascript

open Graphql Handler Text

variable {α : Type} {char mark : Char}
  {lead separator trail word text rest others behind : List Char}

/-- Leaves out the blanks at the beginning of a text. -/
def skipBlanks (text : List Char) : List Char :=
  text.dropWhile isBlank

/-- Reads a mark, with any blanks in front of it. -/
def readMark? (mark : Char) (text : List Char) : Option (List Char) :=
  match skipBlanks text with
  | [] => none
  | char :: rest => if char = mark then some rest else none

/-- Reads a name, with any blanks in front of it. -/
def readName? (text : List Char) : Option (String × List Char) :=
  let word := (skipBlanks text).takeWhile isWordChar
  if isIdentifier word then
    some (String.ofList word, (skipBlanks text).dropWhile isWordChar)
  else none

/-- Reads a text in quotation marks, with any blanks in front of it. A text with a backslash or a
line end in it is not read. -/
def readQuoted? (text : List Char) : Option (String × List Char) := do
  let inside ← readMark? '\x22' text
  let value := inside.takeWhile (· != '\x22')
  if value.any fun char => char == '\\' || endsLine char then none
  else
    match inside.dropWhile (· != '\x22') with
    | [] => none
    | _ :: rest => some (String.ofList value, rest)

/-- Reads a name with a text as its value. -/
def readPair? (text : List Char) : Option ((String × String) × List Char) := do
  let (name, behindName) ← readName? text
  let behindMark ← readMark? ':' behindName
  let (value, rest) ← readQuoted? behindMark
  return ((name, value), rest)

theorem length_skipBlanks_le (text : List Char) : (skipBlanks text).length ≤ text.length :=
  List.length_dropWhile_le isBlank text

theorem length_lt_of_readMark? (hread : readMark? mark text = some rest) :
    rest.length < text.length := by
  have hskip := length_skipBlanks_le text
  unfold readMark? at hread
  split at hread
  next => cases hread
  next char others hothers =>
    rw [hothers, List.length_cons] at hskip
    split at hread
    next =>
      cases hread
      omega
    next => cases hread

theorem length_le_of_readName? {name : String} (hread : readName? text = some (name, rest)) :
    rest.length ≤ text.length := by
  have hskip := length_skipBlanks_le text
  have hdrop := List.length_dropWhile_le isWordChar (skipBlanks text)
  unfold readName? at hread
  dsimp only at hread
  split at hread
  next =>
    cases hread
    omega
  next => cases hread

theorem length_lt_of_readQuoted? {value : String} (hread : readQuoted? text = some (value, rest)) :
    rest.length < text.length := by
  obtain ⟨inside, hmark, hinside⟩ := Option.bind_eq_some_iff.mp hread
  have hopen := length_lt_of_readMark? hmark
  have hdrop := List.length_dropWhile_le (· != '\x22') inside
  dsimp only at hinside
  split at hinside
  next => cases hinside
  next =>
    split at hinside
    next => cases hinside
    next others hothers =>
      cases hinside
      rw [hothers, List.length_cons] at hdrop
      omega

theorem readPair?_eq_some_iff {name value : String} :
    readPair? text = some ((name, value), rest) ↔ ∃ behindName behindMark,
      readName? text = some (name, behindName) ∧ readMark? ':' behindName = some behindMark ∧
        readQuoted? behindMark = some (value, rest) := by
  simp only [readPair?, Option.bind_eq_bind, Option.bind_eq_some_iff, Prod.exists,
    Option.pure_def, Option.some.injEq, Prod.mk.injEq]
  constructor
  · rintro ⟨_, behindName, hname, behindMark, hmark, _, _, hvalue, ⟨rfl, rfl⟩, rfl⟩
    exact ⟨behindName, behindMark, hname, hmark, hvalue⟩
  · rintro ⟨behindName, behindMark, hname, hmark, hvalue⟩
    exact ⟨name, behindName, hname, behindMark, hmark, value, rest, hvalue, ⟨rfl, rfl⟩, rfl⟩

theorem readMark?_of_blanks (hlead : AllBlank lead) (hmark : isBlank mark = false) :
    readMark? mark (lead ++ mark :: rest) = some rest := by
  have hskip : skipBlanks (lead ++ mark :: rest) = mark :: rest :=
    dropWhile_isBlank hlead (by simpa using hmark)
  rw [readMark?, hskip]
  exact if_pos rfl

theorem readMark?_of_other (hlead : AllBlank lead) (hchar : isBlank char = false)
    (hne : char ≠ mark) : readMark? mark (lead ++ char :: rest) = none := by
  have hskip : skipBlanks (lead ++ char :: rest) = char :: rest :=
    dropWhile_isBlank hlead (by simpa using hchar)
  rw [readMark?, hskip]
  exact if_neg hne

/-- A name is read up to a character that cannot stand in a name. -/
theorem readName?_of_blanks (hlead : AllBlank lead) (hword : isIdentifier word = true)
    (hrest : ∀ char, rest.head? = some char → isWordChar char = false) :
    readName? (lead ++ (word ++ rest)) = some (String.ofList word, rest) := by
  obtain ⟨hne, hchars⟩ := isWordChar_of_isIdentifier hword
  have hskip : skipBlanks (lead ++ (word ++ rest)) = word ++ rest := by
    apply dropWhile_isBlank hlead
    intro char hchar
    obtain ⟨first, others, rfl⟩ := List.exists_cons_of_ne_nil hne
    obtain rfl : first = char := by simpa using hchar
    exact Mode.isBlank_of_isWordChar (hchars first List.mem_cons_self)
  rw [readName?, hskip, takeWhile_append_of_end hchars hrest, dropWhile_append_of_end hchars hrest]
  exact if_pos hword

/-- No name goes on where blanks lead to a mark. -/
theorem isWordChar_of_head?_blanks (hlead : AllBlank lead) (hmark : isWordChar mark = false)
    (hchar : (lead ++ mark :: rest).head? = some char) : isWordChar char = false := by
  cases lead with
  | nil =>
      obtain rfl : mark = char := by simpa using hchar
      exact hmark
  | cons blank blanks =>
      obtain rfl : blank = char := by simpa using hchar
      have hblank := hlead blank List.mem_cons_self
      cases hword : isWordChar blank with
      | false => rfl
      | true => exact absurd (Mode.isBlank_of_isWordChar hword) (by simp [hblank])

/-- A reader of members. What it leaves is no longer than what it was given. -/
structure MemberReader (α : Type) where
  read : List Char → Option (α × List Char)
  length_le : ∀ {text member rest}, read text = some (member, rest) → rest.length ≤ text.length

namespace MemberReader

/-- Reads names. -/
def names : MemberReader String where
  read := readName?
  length_le := length_le_of_readName?

/-- Reads names with texts as their values. -/
def entries : MemberReader (String × String) where
  read := readPair?
  length_le {text member rest} hread := by
    obtain ⟨name, value⟩ := member
    obtain ⟨behindName, behindMark, hname, hmark, hvalue⟩ := readPair?_eq_some_iff.mp hread
    have hnameLength := length_le_of_readName? hname
    have hmarkLength := length_lt_of_readMark? hmark
    have hvalueLength := length_lt_of_readQuoted? hvalue
    omega

/-- Reads members with commas between them up to a closing brace. -/
def readMembers (reader : MemberReader α) (text : List Char) : Option (List α × List Char) :=
  match _ : reader.read text with
  | none => none
  | some (member, rest) =>
      match _ : readMark? ',' rest with
      | some others =>
          (reader.readMembers others).map fun (members, behind) => (member :: members, behind)
      | none => (readMark? '\x7d' rest).map ([member], ·)
termination_by text.length
decreasing_by
  have hlength := reader.length_le ‹reader.read text = _›
  have hshorter := length_lt_of_readMark? ‹readMark? ',' _ = _›
  omega

/-- Reads an object of members, and gives the text behind its closing brace. -/
def readObject (reader : MemberReader α) (text : List Char) : Option (List α × List Char) := do
  let inside ← readMark? '\x7b' text
  match readMark? '\x7d' inside with
  | some behind => return ([], behind)
  | none => reader.readMembers inside

variable {reader : MemberReader α} {member : α} {words : List (List Char)} {members : List α}

theorem readMembers_of_comma (hmember : reader.read text = some (member, rest))
    (hcomma : readMark? ',' rest = some others) :
    reader.readMembers text =
      (reader.readMembers others).map fun (members, behind) => (member :: members, behind) := by
  rw [readMembers]
  split
  next hnone => cases hnone.symm.trans hmember
  next hother =>
    cases hother.symm.trans hmember
    split
    next hbehind =>
      cases hbehind.symm.trans hcomma
      rfl
    next hnone => cases hnone.symm.trans hcomma

theorem readMembers_of_last (hmember : reader.read text = some (member, rest))
    (hcomma : readMark? ',' rest = none) :
    reader.readMembers text = (readMark? '\x7d' rest).map ([member], ·) := by
  rw [readMembers]
  split
  next hnone => cases hnone.symm.trans hmember
  next hother =>
    cases hother.symm.trans hmember
    split
    next hbehind => cases hbehind.symm.trans hcomma
    next => rfl

/-- That a word is read as a member wherever no other name goes on behind it. -/
structure Reads (reader : MemberReader α) (word : List Char) (member : α) : Prop where
  starts : ∃ first others, word = first :: others ∧ isWordChar first = true
  read_append : ∀ lead rest, AllBlank lead →
    (∀ char, rest.head? = some char → isWordChar char = false) →
      reader.read (lead ++ (word ++ rest)) = some (member, rest)

namespace Reads

theorem name {name : String} (hname : IsName name) : names.Reads name.toList name where
  starts := by
    obtain ⟨hne, hchars⟩ := isWordChar_of_isIdentifier (isIdentifier_of_isName hname)
    obtain ⟨first, others, hlist⟩ := List.exists_cons_of_ne_nil hne
    exact ⟨first, others, hlist, hchars first (by rw [hlist]; exact List.mem_cons_self)⟩
  read_append lead rest hlead hrest := by
    have hread := readName?_of_blanks hlead (isIdentifier_of_isName hname) hrest
    rwa [String.ofList_toList] at hread

/-- A name with an empty text behind a colon is read as an entry. -/
theorem emptyEntry {name : String} (hname : IsName name) :
    entries.Reads (name ++ ": \"\"").toList (name, "") where
  starts := by
    obtain ⟨first, others, hlist, hfirst⟩ := (Reads.name hname).starts
    exact ⟨first, others ++ ": \"\"".toList, by rw [String.toList_append, hlist]; rfl, hfirst⟩
  read_append lead rest hlead hrest := by
    have hread := (Reads.name hname).read_append lead (':' :: ([' '] ++ '\x22' :: '\x22' :: rest))
      hlead fun char => isWordChar_of_head?_blanks .nil (by decide)
    have hmark : readMark? ':' (':' :: ([' '] ++ '\x22' :: '\x22' :: rest)) =
        some ([' '] ++ '\x22' :: '\x22' :: rest) := readMark?_of_blanks .nil (by decide)
    have hopen : readMark? '\x22' ([' '] ++ '\x22' :: '\x22' :: rest) = some ('\x22' :: rest) :=
      readMark?_of_blanks .space (by decide)
    have hvalue : readQuoted? ([' '] ++ '\x22' :: '\x22' :: rest) = some ("", rest) := by
      rw [readQuoted?, hopen]
      rfl
    rw [String.toList_append, List.append_assoc]
    exact readPair?_eq_some_iff.mpr ⟨_, _, hread, hmark, hvalue⟩

end Reads

theorem readMembers_cons (hword : reader.Reads word member) (hlead : AllBlank lead)
    (htext : reader.readMembers text = some (members, behind)) :
    reader.readMembers (lead ++ (word ++ ',' :: text)) = some (member :: members, behind) := by
  have hread := hword.read_append lead (',' :: text) hlead fun char =>
    isWordChar_of_head?_blanks .nil (by decide)
  have hcomma : readMark? ',' (',' :: text) = some text := readMark?_of_blanks .nil (by decide)
  rw [readMembers_of_comma hread hcomma, htext, Option.map_some]

theorem readMembers_singleton (hword : reader.Reads word member) (hlead : AllBlank lead)
    (htrail : AllBlank trail) :
    reader.readMembers (lead ++ (word ++ (trail ++ '\x7d' :: behind))) =
      some ([member], behind) := by
  have hread := hword.read_append lead (trail ++ '\x7d' :: behind) hlead fun char =>
    isWordChar_of_head?_blanks htrail (by decide)
  have hcomma : readMark? ',' (trail ++ '\x7d' :: behind) = none :=
    readMark?_of_other htrail (by decide) (by decide)
  rw [readMembers_of_last hread hcomma, readMark?_of_blanks htrail (by decide), Option.map_some]

/-- Members are found again when commas and blanks are put between them. -/
theorem readMembers_intercalate (hwords : List.Forall₂ reader.Reads words members)
    (hne : words ≠ []) (hlead : AllBlank lead) (hseparator : AllBlank separator)
    (htrail : AllBlank trail) :
    reader.readMembers
        (lead ++ ((',' :: separator).intercalate words ++ (trail ++ '\x7d' :: behind))) =
      some (members, behind) := by
  induction hwords generalizing lead with
  | nil => exact absurd rfl hne
  | @cons word member words members hword hwords ih =>
      cases hwords with
      | nil =>
          rw [List.intercalate_singleton]
          exact readMembers_singleton hword hlead htrail
      | @cons next _ words _ hnext hwords =>
          have hrest := ih (List.cons_ne_nil next words) hseparator
          rw [List.intercalate_cons_cons, List.append_assoc, List.append_assoc, List.cons_append]
          exact readMembers_cons hword hlead hrest

/-- Members begin with a word. -/
theorem exists_intercalate_eq_cons (hwords : List.Forall₂ reader.Reads words members)
    (hne : words ≠ []) (separator rest : List Char) :
    ∃ first others, separator.intercalate words ++ rest = first :: others ∧
      isWordChar first = true := by
  cases hwords with
  | nil => exact absurd rfl hne
  | @cons word _ words _ hword _ =>
      obtain ⟨first, others, rfl, hfirst⟩ := hword.starts
      cases words with
      | nil => exact ⟨first, others ++ rest, by rw [List.intercalate_singleton]; rfl, hfirst⟩
      | cons next words => exact ⟨first, _, by rw [List.intercalate_cons_cons]; rfl, hfirst⟩

/-- An object of members is read up to its own closing brace. -/
theorem readObject_intercalate (hwords : List.Forall₂ reader.Reads words members)
    (hlead : AllBlank lead) (hseparator : AllBlank separator) (htrail : AllBlank trail) :
    reader.readObject ('\x7b' ::
        (lead ++ ((',' :: separator).intercalate words ++ (trail ++ '\x7d' :: behind)))) =
      some (members, behind) := by
  have hopen : ∀ {inside}, readMark? '\x7b' ('\x7b' :: inside) = some inside :=
    readMark?_of_blanks .nil (by decide)
  rw [readObject, hopen, Option.bind_eq_bind, Option.bind_some]
  by_cases hnil : words = []
  · subst hnil
    cases hwords
    rw [List.intercalate_nil, List.nil_append, ← List.append_assoc,
      readMark?_of_blanks (hlead.append htrail) (by decide)]
    rfl
  · -- The first member is no closing brace.
    obtain ⟨first, others, hstart, hfirst⟩ := exists_intercalate_eq_cons hwords hnil
      (',' :: separator) (trail ++ '\x7d' :: behind)
    have hclose : readMark? '\x7d' (lead ++ first :: others) = none := by
      apply readMark?_of_other hlead (Mode.isBlank_of_isWordChar hfirst)
      rintro rfl
      exact absurd hfirst (by decide)
    have hmembers : reader.readMembers _ = some (members, behind) :=
      readMembers_intercalate hwords hnil hlead hseparator htrail
    rw [hstart] at hmembers ⊢
    rw [hclose]
    exact hmembers

theorem readObject_nil : reader.readObject ('\x7b' :: '\x7d' :: behind) = some ([], behind) :=
  readObject_intercalate .nil .nil .nil .nil

end MemberReader

variable {names fields : List String}

theorem forall₂_reads_names (hnames : ∀ name ∈ names, IsName name) :
    List.Forall₂ MemberReader.names.Reads (names.map String.toList) names :=
  List.forall₂_map_left_iff.mpr
    (List.forall₂_same.mpr fun name hname => .name (hnames name hname))

theorem forall₂_reads_members (hfields : ∀ field ∈ fields, IsName field) :
    List.Forall₂ MemberReader.entries.Reads ((members fields).map String.toList)
      (fields.map (·, "")) := by
  rw [members, List.map_map, List.forall₂_map_left_iff, List.forall₂_map_right_iff,
    List.forall₂_same]
  exact fun field hfield => .emptyEntry (hfields field hfield)

/-- The pattern that takes the arguments is read back. -/
theorem readObject_destructurePattern (hnames : ∀ name ∈ names, IsName name) :
    MemberReader.names.readObject ((destructurePattern names).toList ++ behind) =
      some (names, behind) := by
  rw [toList_destructurePattern, List.append_assoc]
  exact MemberReader.readObject_intercalate (forall₂_reads_names hnames) .nil .space .nil

/-- The literal of the variables is read back. -/
theorem readObject_variablesLiteral (hnames : ∀ name ∈ names, IsName name) :
    MemberReader.names.readObject ((variablesLiteral names).toList ++ behind) =
      some (names, behind) := by
  by_cases hnil : names = []
  · rw [hnil]
    exact MemberReader.readObject_nil
  · rw [toList_variablesLiteral hnil, List.append_assoc, List.cons_append, List.append_assoc,
      List.append_assoc]
    exact MemberReader.readObject_intercalate (forall₂_reads_names hnames) .space .space .space

/-- The literal of the output is read back, with empty values. -/
theorem readObject_outputLiteral (hfields : ∀ field ∈ fields, IsName field) :
    MemberReader.entries.readObject ((outputLiteral fields).toList ++ behind) =
      some (fields.map (·, ""), behind) := by
  by_cases hnil : fields = []
  · rw [hnil]
    exact MemberReader.readObject_nil
  · have hlead : AllBlank "\n      ".toList := List.all_eq_true.mp (by decide)
    have htrail : AllBlank "\n    ".toList := List.all_eq_true.mp (by decide)
    rw [toList_outputLiteral hnil, List.append_assoc, List.append_assoc]
    exact MemberReader.readObject_intercalate (forall₂_reads_members hfields) hlead hlead htrail

/-- The literals made of names read back to these names in their order, repeated ones included,
and the body of a response to the names with an empty text each. All of a text that follows a
literal is left. -/
theorem literals_read_back (names : List String) (hnames : ∀ name ∈ names, IsName name)
    (behind : List Char) :
    MemberReader.names.readObject ((destructurePattern names).toList ++ behind) =
        some (names, behind) ∧
      MemberReader.names.readObject ((variablesLiteral names).toList ++ behind) =
        some (names, behind) ∧
      MemberReader.entries.readObject ((outputLiteral names).toList ++ behind) =
        some (names.map (·, ""), behind) :=
  ⟨readObject_destructurePattern hnames, readObject_variablesLiteral hnames,
    readObject_outputLiteral hnames⟩

/-- Repeated names, names that are keywords and a text that looks like the end of a literal. -/
theorem literals_of_keywords :
    MemberReader.entries.readObject ((outputLiteral ["class", "_a1", "class"]).toList ++
        ", b: \"\" \x7d".toList) =
      some ([("class", ""), ("_a1", ""), ("class", "")], ", b: \"\" \x7d".toList) :=
  (literals_read_back ["class", "_a1", "class"] (by decide) ", b: \"\" \x7d".toList).2.2

end ActionHandler.Javascript
