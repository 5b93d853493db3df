import ActionHandler.Text.Quoted

/-! # Laws of raw texts

A string is a raw text without surrogates, and no other string is the same one. It can always
be encoded, and its bytes are those of its characters. A raw text that cannot be encoded has a
surrogate that is not allowed.
-/

namespace ActionHandler.Text

namespace RawText

variable {text first second : RawText} {allowed : Surrogate → Bool} {error : EncodeError}

theorem ofString_append (first second : String) :
    (↑(first ++ second) : RawText) = ↑first ++ ↑second := by
  simp [ofString]

@[simp] theorem mem_ofString {char : Char} {text : String} :
    .char char ∈ (text : RawText) ↔ char ∈ text.toList := by
  simp [ofString]

/-- A string has no surrogates. -/
theorem surrogate_not_mem_ofString (value : Surrogate) (text : String) :
    .surrogate value ∉ (text : RawText) := by
  simp [ofString]

theorem mapM_char?_map (chars : List Char) :
    (chars.map RawChar.char).mapM RawChar.char? = some chars := by
  induction chars with
  | nil => rfl
  | cons char rest ih => simp [List.mapM_cons, RawChar.char?, ih]

/-- A string is read back from its raw text. -/
@[simp] theorem text?_ofString (text : String) : (text : RawText).text? = some text := by
  rw [text?, ofString, mapM_char?_map, Option.map_some, String.ofList_toList]

/-- Strings that are the same raw text are the same. -/
theorem ofString_inj {first second : String} :
    (first : RawText) = second ↔ first = second := by
  constructor
  · intro heq
    have htext := congrArg text? heq
    rwa [text?_ofString, text?_ofString, Option.some.injEq] at htext
  · rintro rfl
    rfl

theorem eq_map_of_mapM_char? {chars : List Char} (hchars : text.mapM RawChar.char? = some chars) :
    text = chars.map .char := by
  induction text generalizing chars with
  | nil =>
      cases hchars
      rfl
  | cons point rest ih =>
      rw [List.mapM_cons] at hchars
      obtain ⟨char, hpoint, hrest⟩ := Option.bind_eq_some_iff.mp hchars
      obtain ⟨others, hothers, hcons⟩ := Option.bind_eq_some_iff.mp hrest
      cases point with
      | surrogate => cases hpoint
      | char value =>
          cases hpoint
          cases hcons
          rw [List.map_cons, ih hothers]

/-- The string that a raw text is, is the same text. -/
theorem text?_eq_some_iff {string : String} : text.text? = some string ↔ text = string := by
  constructor
  · intro htext
    obtain ⟨chars, hchars, rfl⟩ := Option.map_eq_some_iff.mp htext
    rw [ofString, String.toList_ofList, eq_map_of_mapM_char? hchars]
  · rintro rfl
    exact text?_ofString string

theorem bytes_append (first second : RawText) :
    bytes (first ++ second) = first.bytes ++ second.bytes :=
  List.flatMap_append

/-- The bytes of a string are its encoding. -/
@[simp] theorem bytes_ofString (text : String) :
    (text : RawText).bytes = Utf8.encode text.toList := by
  simp only [bytes, ofString, Utf8.encode, List.flatMap_map, RawChar.bytes]

/-- A text can be encoded when each of its surrogates is allowed, wherever it begins. -/
theorem encodeErrorFrom?_eq_none_iff {position : Nat} :
    text.encodeErrorFrom? allowed position = none ↔
      ∀ value, .surrogate value ∈ text → allowed value = true := by
  induction text generalizing position with
  | nil => simp [encodeErrorFrom?]
  | cons point rest ih =>
      cases point with
      | char value => simp [encodeErrorFrom?, ih]
      | surrogate value =>
          rw [encodeErrorFrom?]
          cases hallowed : allowed value with
          | true => simp [ih, hallowed]
          | false => simp [hallowed]

/-- A text can be encoded when all its surrogates are allowed. -/
theorem encodeError?_eq_none_iff :
    text.encodeError? allowed = none ↔ ∀ value, .surrogate value ∈ text → allowed value = true :=
  encodeErrorFrom?_eq_none_iff

/-- A string can be encoded whatever is allowed. -/
@[simp] theorem encodeError?_ofString (allowed : Surrogate → Bool) (text : String) :
    (text : RawText).encodeError? allowed = none :=
  encodeError?_eq_none_iff.mpr fun value hmem =>
    absurd hmem (surrogate_not_mem_ofString value text)

/-- Two texts in a row can be encoded when each of them can. -/
theorem encodeError?_append_eq_none_iff :
    encodeError? allowed (first ++ second) = none ↔
      first.encodeError? allowed = none ∧ second.encodeError? allowed = none := by
  simp only [encodeError?_eq_none_iff, List.mem_append, or_imp, forall_and]

/-- A raw text without surrogates is a string. -/
theorem exists_eq_ofString (htext : ∀ value, .surrogate value ∉ text) :
    ∃ string : String, text = string := by
  induction text with
  | nil => exact ⟨"", rfl⟩
  | cons point rest ih =>
      obtain ⟨string, rfl⟩ := ih fun value hmem => htext value (List.mem_cons_of_mem point hmem)
      cases point with
      | char value => exact ⟨String.ofList (value :: string.toList), by simp [ofString]⟩
      | surrogate value => exact absurd List.mem_cons_self (htext value)

/-- Without allowing surrogates, exactly the strings can be encoded. -/
theorem encodeError?_strict_eq_none_iff :
    text.encodeError? (fun _ => false) = none ↔ ∃ string : String, text = string := by
  constructor
  · intro hnone
    refine exists_eq_ofString fun value hmem => ?_
    cases encodeError?_eq_none_iff.mp hnone value hmem
  · rintro ⟨string, rfl⟩
    exact encodeError?_ofString _ string

/-- Strings are the texts that can be encoded. -/
theorem encode_eq_ok_iff {bytes : List UInt8} :
    text.encode = .ok bytes ↔
      ∃ string : String, text = string ∧ bytes = Utf8.encode string.toList := by
  constructor
  · intro hencode
    unfold encode at hencode
    split at hencode
    next => cases hencode
    next hnone =>
      obtain ⟨string, rfl⟩ := encodeError?_strict_eq_none_iff.mp hnone
      exact ⟨string, rfl, by rw [← bytes_ofString, Except.ok.inj hencode]⟩
  · rintro ⟨string, rfl, rfl⟩
    rw [encode, encodeError?_ofString, bytes_ofString]

/-- A string is encoded by its bytes. -/
@[simp] theorem encode_ofString (text : String) :
    (text : RawText).encode = .ok (Utf8.encode text.toList) :=
  encode_eq_ok_iff.mpr ⟨text, rfl, rfl⟩

/-- A string is shown as it is. -/
@[simp] theorem shown_ofString (text : String) : Quoted.shown text = text := by
  simp [Quoted.shown, ofString, List.flatMap_map, List.flatMap_singleton']

end RawText

open RawText

/-- That putting texts of a kind together goes as for strings. -/
class LawfulTextual (τ : Type) [Append τ] [Textual τ] : Prop where
  append_assoc : ∀ first second third : τ, first ++ second ++ third = first ++ (second ++ third)
  empty_append : ∀ text : τ, Textual.ofString "" ++ text = text
  append_empty : ∀ text : τ, text ++ Textual.ofString "" = text
  ofString_append : ∀ first second : String,
    (Textual.ofString (first ++ second) : τ) = Textual.ofString first ++ Textual.ofString second

instance : LawfulTextual String where
  append_assoc _ _ _ := String.append_assoc
  empty_append _ := String.empty_append
  append_empty _ := String.append_empty
  ofString_append _ _ := rfl

instance : LawfulTextual RawText where
  append_assoc := List.append_assoc
  empty_append := List.nil_append
  append_empty := List.append_nil
  ofString_append := RawText.ofString_append

section

variable {τ : Type} [Append τ] [Textual τ] [LawfulTextual τ]

open LawfulTextual

/-- What is put in front of texts stands in front of all of them together. -/
theorem foldl_append_eq (texts : List τ) (front : τ) :
    texts.foldl (· ++ ·) front = front ++ joined texts := by
  unfold joined
  induction texts generalizing front with
  | nil => exact (append_empty front).symm
  | cons text rest ih =>
      rw [List.foldl_cons, ih, List.foldl_cons, ih (Textual.ofString "" ++ text), empty_append,
        append_assoc]

theorem joined_cons (text : τ) (rest : List τ) : joined (text :: rest) = text ++ joined rest := by
  rw [joined, List.foldl_cons, foldl_append_eq, empty_append]

end

end ActionHandler.Text
