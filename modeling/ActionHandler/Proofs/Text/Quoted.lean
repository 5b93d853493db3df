import ActionHandler.Graphql.StringLiteral
import ActionHandler.Text.Quoted
import Mathlib.Algebra.Group.Nat.Defs
import Mathlib.Tactic.SplitIfs

/-! # Laws of quoted text

Quoted text stands on one line, and ends where it ends whatever follows it: a mark within it has a
backslash in front of it, and the form of a character tells the character and its own length. So
one quoted text can be told from another one, and the texts around both as well.
-/

namespace ActionHandler.Text.Quoted

open Graphql

variable {mark char : Char} {point : RawChar} {rest rest' : List Char}

/-- The characters that delimit quoted text. -/
def marks : List Char :=
  ['\x27', '\x22']

theorem delimiter_mem_marks (text : RawText) : delimiter text ∈ marks := by
  unfold delimiter
  split <;> decide

/-- A hexadecimal digit is read back. -/
theorem hexValue?_hexDigit : ∀ value < 16, hexValue? (hexDigit value) = some value := by
  decide

theorem length_hexDigits (width value : Nat) : (hexDigits width value).length = width := by
  induction width generalizing value with
  | zero => rfl
  | succ width ih => rw [hexDigits, List.length_append, ih, List.length_singleton]

/-- The last digit of a number counts once, and those in front of it sixteen times. -/
theorem hexNumber?_concat (digits : List Char) (digit : Char) :
    hexNumber? (digits ++ [digit]) =
      (hexNumber? digits).bind fun value => (hexValue? digit).map (16 * value + ·) := by
  rw [hexNumber?, List.foldl_append, ← hexNumber?]
  cases hexNumber? digits with
  | none => rfl
  | some value => cases hvalue : hexValue? digit <;> simp [hvalue]

/-- Enough digits tell a number. -/
theorem hexNumber?_hexDigits {width value : Nat} (hvalue : value < 16 ^ width) :
    hexNumber? (hexDigits width value) = some value := by
  induction width generalizing value with
  | zero =>
      obtain rfl : value = 0 := by simpa using hvalue
      rfl
  | succ width ih =>
      have hhigh : value / 16 < 16 ^ width := by
        apply Nat.div_lt_of_lt_mul
        rwa [Nat.mul_comm, ← Nat.pow_succ]
      have hlow := hexValue?_hexDigit (value % 16) (Nat.mod_lt value (by decide))
      rw [hexDigits, hexNumber?_concat, ih hhigh, Option.bind_some, hlow, Option.map_some,
        Nat.div_add_mod]

/-- The letters that stand for a character behind a backslash. -/
def letters : List (Char × Char) :=
  [('n', '\n'), ('r', '\r'), ('t', '\t')]

/-- The letters that a code point follows behind a backslash, and the number of its digits. -/
def widths : List (Char × Nat) :=
  [('x', 2), ('u', 4), ('U', 8)]

/-- The code point with a given number. -/
def pointOf (number : Nat) : RawChar :=
  if hsurrogate : 0xD800 ≤ number ∧ number ≤ 0xDFFF then
    .surrogate ⟨number - 0xD800, by omega⟩
  else .char (Char.ofNat number)

/-- The code point of a character is read as the character. -/
theorem pointOf_toNat (char : Char) : pointOf char.toNat = .char char := by
  have hvalid : char.toNat < 0xD800 ∨ 0xDFFF < char.toNat ∧ char.toNat < 0x110000 := char.valid
  rw [pointOf, dif_neg (by omega), Char.ofNat_toNat]

/-- The code point of a surrogate is read as the surrogate. -/
theorem pointOf_code (value : Surrogate) : pointOf value.code = .surrogate value := by
  have hcode : value.code = 0xD800 + value.val := rfl
  have hlt := value.isLt
  rw [pointOf, dif_pos (by omega)]
  simp [hcode]

/-- Reads a code point from its form, and gives the text behind the form. -/
def unescape? : List Char → Option (RawChar × List Char)
  | [] => none
  | '\\' :: [] => none
  | '\\' :: letter :: rest =>
      match widths.lookup letter with
      | some width => (hexNumber? (rest.take width)).map fun number =>
          (pointOf number, rest.drop width)
      | none => some (.char ((letters.lookup letter).getD letter), rest)
  | char :: rest => some (.char char, rest)

/-- A number behind a backslash and a letter is read back in the width of the letter. -/
theorem unescape?_of_width {letter : Char} {width number : Nat}
    (hwidth : widths.lookup letter = some width) (hnumber : number < 16 ^ width) :
    unescape? ('\\' :: letter :: hexDigits width number ++ rest) =
      some (pointOf number, rest) := by
  have hlength := length_hexDigits width number
  have htake : (hexDigits width number ++ rest).take width = hexDigits width number :=
    List.take_left' hlength
  have hdrop : (hexDigits width number ++ rest).drop width = rest := List.drop_left' hlength
  rw [List.cons_append, List.cons_append, unescape?]
  simp only [hwidth]
  rw [htake, hdrop, hexNumber?_hexDigits hnumber, Option.map_some]

theorem unescape?_of_ne (hchar : char ≠ '\\') :
    unescape? (char :: rest) = some (.char char, rest) := by
  unfold unescape?
  split
  next heq => cases heq
  next heq => exact absurd (List.cons.inj heq).1 hchar
  next heq => exact absurd (List.cons.inj heq).1 hchar
  next heq =>
    cases heq
    rfl

/-- The forms that a code point can have in quoted text. -/
inductive IsForm (mark : Char) (point : RawChar) : List Char → Prop
  /-- A printable character stands for itself. -/
  | plain {char : Char} (hpoint : point = .char char) (hmark : char ≠ mark) (hslash : char ≠ '\\')
      (hprintable : isPrintable char = true) : IsForm mark point [char]
  /-- A letter behind a backslash stands for itself or for a control character. -/
  | letter {letter : Char} (hwidth : widths.lookup letter = none)
      (hvalue : .char ((letters.lookup letter).getD letter) = point)
      (hprintable : isPrintable letter = true) : IsForm mark point ['\\', letter]
  /-- Any other code point is written by its number. -/
  | number {letter : Char} {width number : Nat} (hwidth : widths.lookup letter = some width)
      (hvalue : pointOf number = point) (hsmall : number < 16 ^ width)
      (hprintable : isPrintable letter = true) :
      IsForm mark point ('\\' :: letter :: hexDigits width number)

/-- A character is escaped in one of the forms that there are. -/
theorem isForm_escapeChar (hmark : mark ∈ marks) (char : Char) :
    IsForm mark (.char char) (escapeChar mark char) := by
  have hvalid : char.toNat < 0xD800 ∨ 0xDFFF < char.toNat ∧ char.toNat < 0x110000 := char.valid
  unfold escapeChar
  split_ifs with hescaped hfeed hreturn htab hprintable hshort hmiddle
  · have hletters : (marks ++ ['\\']).all (fun letter => widths.lookup letter = none ∧
        (letters.lookup letter).getD letter = letter ∧ isPrintable letter) = true := by decide
    have hchar : char ∈ marks ++ ['\\'] := by
      obtain rfl | rfl := hescaped
      · exact List.mem_append_left ['\\'] hmark
      · exact List.mem_append_right marks List.mem_cons_self
    have hletter := List.all_eq_true.mp hletters char hchar
    obtain ⟨hwidth, hvalue, hprintable⟩ := of_decide_eq_true hletter
    exact .letter hwidth (congrArg RawChar.char hvalue) hprintable
  · exact .letter rfl (congrArg RawChar.char hfeed.symm) (by decide)
  · exact .letter rfl (congrArg RawChar.char hreturn.symm) (by decide)
  · exact .letter rfl (congrArg RawChar.char htab.symm) (by decide)
  · obtain ⟨hother, hslash⟩ := not_or.mp hescaped
    exact .plain rfl hother hslash hprintable
  · exact .number rfl (pointOf_toNat char) hshort (by decide)
  · exact .number rfl (pointOf_toNat char) hmiddle (by decide)
  · exact .number rfl (pointOf_toNat char) (by omega) (by decide)

/-- A code point is escaped in one of the forms that there are. -/
theorem isForm_escape (hmark : mark ∈ marks) (point : RawChar) :
    IsForm mark point (escape mark point) := by
  cases point with
  | char value => exact isForm_escapeChar hmark value
  | surrogate value =>
      have hcode : value.code < 16 ^ 4 :=
        Nat.lt_trans (Nat.add_lt_add_left value.isLt 0xD800) (by decide)
      exact .number rfl (pointOf_code value) hcode (by decide)

/-- A code point is read back from its form, whatever follows. -/
theorem unescape?_escape (hmark : mark ∈ marks) (point : RawChar) (rest : List Char) :
    unescape? (escape mark point ++ rest) = some (point, rest) := by
  have hform := isForm_escape hmark point
  generalize escape mark point = form at hform ⊢
  cases hform with
  | plain hpoint _ hslash =>
      subst hpoint
      exact unescape?_of_ne hslash
  | letter hwidth hvalue =>
      rw [List.cons_append, List.cons_append, unescape?]
      simp only [hwidth, hvalue]
      rfl
  | number hwidth hvalue hsmall =>
      rw [← hvalue]
      exact unescape?_of_width hwidth hsmall

/-- The form of a code point does not begin with the mark at the end of the text. -/
theorem exists_escape_eq_cons (hmark : mark ∈ marks) (point : RawChar) :
    ∃ first behind, escape mark point = first :: behind ∧ first ≠ mark := by
  have hform := isForm_escape hmark point
  have hslash : '\\' ≠ mark := by
    rintro rfl
    exact absurd hmark (by decide)
  generalize escape mark point = form at hform ⊢
  cases hform with
  | plain _ hother => exact ⟨_, [], rfl, hother⟩
  | letter | number => exact ⟨'\\', _, rfl, hslash⟩

/-- Text up to its mark can be told from what follows. -/
theorem flatMap_escape_inj (hmark : mark ∈ marks) {first second : RawText}
    (heq : first.flatMap (escape mark) ++ mark :: rest =
      second.flatMap (escape mark) ++ mark :: rest') : first = second ∧ rest = rest' := by
  -- A text that goes on does not begin with the mark that ends the other one.
  have hends : ∀ point (behind rest : List Char), escape mark point ++ behind ≠ mark :: rest := by
    intro point behind rest heq
    obtain ⟨head, tail, hescape, hhead⟩ := exists_escape_eq_cons hmark point
    rw [hescape] at heq
    exact hhead (List.cons.inj heq).1
  induction first generalizing second with
  | nil =>
      cases second with
      | nil => exact ⟨rfl, (List.cons.inj heq).2⟩
      | cons other others =>
          rw [List.flatMap_cons, List.append_assoc] at heq
          exact absurd heq.symm (hends other _ _)
  | cons point points ih =>
      rw [List.flatMap_cons, List.append_assoc] at heq
      cases second with
      | nil => exact absurd heq (hends point _ _)
      | cons other others =>
          rw [List.flatMap_cons, List.append_assoc] at heq
          have hread := congrArg unescape? heq
          rw [unescape?_escape hmark, unescape?_escape hmark] at hread
          obtain ⟨rfl, hpoints⟩ := Prod.mk.inj (Option.some.inj hread)
          obtain ⟨rfl, hrest⟩ := ih hpoints
          exact ⟨rfl, hrest⟩

/-- Quoted text can be told from what follows, and tells the text. -/
theorem encode_append_inj {first second : RawText}
    (heq : encode first ++ rest = encode second ++ rest') : first = second ∧ rest = rest' := by
  simp only [encode, List.cons_append, List.append_assoc] at heq
  obtain ⟨hmark, hbehind⟩ := List.cons.inj heq
  rw [hmark] at hbehind
  exact flatMap_escape_inj (delimiter_mem_marks second) hbehind

/-- Quoted text in a report tells the text, and what stands behind it. -/
theorem quote_append_inj {first second : RawText} {behind behind' : String}
    (heq : quote first ++ behind = quote second ++ behind') :
    first = second ∧ behind = behind' := by
  have hlist := congrArg String.toList heq
  simp only [quote, String.toList_append, String.toList_ofList] at hlist
  obtain ⟨htext, hbehind⟩ := encode_append_inj hlist
  exact ⟨htext, String.toList_inj.mp hbehind⟩

/-- The digits of a number are hexadecimal digits. -/
theorem exists_of_mem_hexDigits {width value : Nat} (hchar : char ∈ hexDigits width value) :
    ∃ digit < 16, char = hexDigit digit := by
  induction width generalizing value with
  | zero => cases hchar
  | succ width ih =>
      rw [hexDigits, List.mem_append, List.mem_singleton] at hchar
      obtain hhigh | hlow := hchar
      · exact ih hhigh
      · exact ⟨value % 16, Nat.mod_lt value (by decide), hlow⟩

theorem isPrintable_hexDigit : ∀ value < 16, isPrintable (hexDigit value) = true := by
  decide

/-- Every form of a code point is printable. -/
theorem isPrintable_of_mem_escape (hmark : mark ∈ marks)
    (hchar : char ∈ escape mark point) : isPrintable char = true := by
  have hform := isForm_escape hmark point
  generalize escape mark point = form at hform hchar
  cases hform with
  | plain _ _ _ hprintable =>
      obtain rfl := List.mem_singleton.mp hchar
      exact hprintable
  | letter _ _ hprintable =>
      obtain rfl | hletter := List.mem_cons.mp hchar
      · decide
      · obtain rfl := List.mem_singleton.mp hletter
        exact hprintable
  | number _ _ _ hprintable =>
      obtain rfl | hbehind := List.mem_cons.mp hchar
      · decide
      · obtain rfl | hdigit := List.mem_cons.mp hbehind
        · exact hprintable
        · obtain ⟨digit, hlt, rfl⟩ := exists_of_mem_hexDigits hdigit
          exact isPrintable_hexDigit digit hlt

/-- Quoted text is printable, whatever it quotes. -/
theorem isPrintable_of_mem_encode {text : RawText} (hchar : char ∈ encode text) :
    isPrintable char = true := by
  have hmarks : marks.all isPrintable = true := by decide
  have hmark := delimiter_mem_marks text
  rw [encode, List.cons_append, List.mem_cons, List.mem_append, List.mem_singleton,
    List.mem_flatMap] at hchar
  obtain rfl | ⟨other, _, hescape⟩ | rfl := hchar
  · exact List.all_eq_true.mp hmarks _ hmark
  · exact isPrintable_of_mem_escape hmark hescape
  · exact List.all_eq_true.mp hmarks _ hmark

end ActionHandler.Text.Quoted
