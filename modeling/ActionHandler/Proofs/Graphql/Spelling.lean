import ActionHandler.Graphql.TokenStream
import ActionHandler.Proofs.Text.Delimited

/-! # Texts that spell tokens

A piece of text spells tokens if these are what is read from it, wherever it stands. A name
must not go on behind the piece, so the text there has to begin with another character.

Pieces are put together from marks, names and characters without meaning. Strings and numbers
are left out, since declarations of object types are made without them.
-/

namespace ActionHandler.Graphql

/-- A stream that begins with given tokens. -/
def TokenStream.prepend : List Token → TokenStream → TokenStream
  | [], stream => stream
  | first :: others, stream => .token first (prepend others stream)

/-- The stream of given tokens. -/
def TokenStream.ofTokens (tokens : List Token) : TokenStream :=
  prepend tokens .finished

theorem TokenStream.ofTokens_cons (first : Token) (others : List Token) :
    ofTokens (first :: others) = .token first (ofTokens others) :=
  rfl

/-- Whether a text begins with something else than the rest of a name. -/
def endsName : List Char → Bool
  | [] => true
  | char :: _ => !isNameContinue char

/-- That a piece of text spells tokens, whatever text follows. -/
def Spells (tokens : List Token) (piece : List Char) : Prop :=
  ∀ text : List Char, endsName text = true →
    TokenStream.ofText (piece ++ text) = .prepend tokens (TokenStream.ofText text)

variable {char : Char} {mark : Punctuator} {text : List Char}

/-- A mark is neither ignored nor the beginning of a comment or a name. -/
theorem Punctuator.of_ofChar? (hmark : ofChar? char = some mark) :
    isIgnored char = false ∧ char ≠ '#' ∧ isNameStart char = false := by
  unfold ofChar? at hmark
  split at hmark
  all_goals first | decide | cases hmark

/-- What a name begins with is neither ignored, nor a comment, nor a mark. -/
theorem of_isNameStart (hstart : isNameStart char = true) :
    isIgnored char = false ∧ char ≠ '#' ∧ Punctuator.ofChar? char = none := by
  refine ⟨?_, ?_, ?_⟩
  · cases hignored : isIgnored char with
    | false => rfl
    | true =>
        simp only [isIgnored, Bool.or_eq_true, beq_iff_eq] at hignored
        obtain ((((rfl | rfl) | rfl) | rfl) | rfl) | rfl := hignored <;>
          exact absurd hstart (by decide)
  · rintro rfl
    exact absurd hstart (by decide)
  · cases hmark : Punctuator.ofChar? char with
    | none => rfl
    | some mark =>
        rw [(Punctuator.of_ofChar? hmark).2.2] at hstart
        cases hstart

theorem Lexeme.read_mark (hmark : Punctuator.ofChar? char = some mark) :
    read char text = .ok ⟨.punctuator mark, 1⟩ := by
  rw [read, hmark]

theorem takeWhile_isNameContinue {word : List Char}
    (hword : ∀ char ∈ word, isNameContinue char = true) (hend : endsName text = true) :
    (word ++ text).takeWhile isNameContinue = word := by
  apply Text.takeWhile_append_of_end hword
  intro char hchar
  cases text with
  | nil => cases hchar
  | cons first rest =>
      obtain rfl : first = char := by simpa using hchar
      simpa [endsName] using hend

/-- A name is read as a whole, and nothing behind it is. -/
theorem Lexeme.read_name {word : Name} {first : Char} {others : List Char}
    (hword : word.text.toList = first :: others) (hend : endsName text = true) :
    read first (others ++ text) = .ok ⟨.name word, others.length + 1⟩ := by
  have hform := word.wellFormed
  simp only [hword, isNameText, Bool.and_eq_true, List.all_eq_true] at hform
  obtain ⟨hstart, hothers⟩ := hform
  have htake := takeWhile_isNameContinue hothers hend
  have hname : Name.read first hstart (others ++ text) = word := by
    apply Name.ext
    change String.ofList (first :: (others ++ text).takeWhile isNameContinue) = word.text
    rw [htake, ← hword, String.ofList_toList]
  rw [read, (of_isNameStart hstart).2.2]
  simp only [hstart, dif_pos, hname, htake]

namespace TokenStream

theorem ofText_ignored (hchar : isIgnored char = true) : ofText (char :: text) = ofText text := by
  rw [ofText, scan, if_pos hchar, ofText]

theorem ofText_mark (hmark : Punctuator.ofChar? char = some mark) :
    ofText (char :: text) = .token (.punctuator mark) (ofText text) := by
  obtain ⟨hignored, hcomment, _⟩ := Punctuator.of_ofChar? hmark
  rw [ofText, scan, hignored, if_neg Bool.false_ne_true, if_neg hcomment,
    Lexeme.read_mark hmark]
  rfl

/-- A name is one token if it ends where it does. -/
theorem ofText_name (word : Name) (hend : endsName text = true) :
    ofText (word.text.toList ++ text) = .token (.name word) (ofText text) := by
  cases hword : word.text.toList with
  | nil =>
      have hform := word.wellFormed
      rw [hword] at hform
      cases hform
  | cons first others =>
      have hform := word.wellFormed
      simp only [hword, isNameText, Bool.and_eq_true] at hform
      obtain ⟨hignored, hcomment, _⟩ := of_isNameStart hform.1
      rw [List.cons_append, ofText, scan, hignored, if_neg Bool.false_ne_true, if_neg hcomment,
        Lexeme.read_name hword hend]
      -- The scanner counts down the characters of the name instead of dropping them.
      simp only [Nat.add_sub_cancel]
      rw [scan_eq_scan_drop, List.drop_left, ofText]

end TokenStream

theorem endsName_append {piece : List Char} (hpiece : endsName piece = true)
    (htext : endsName text = true) : endsName (piece ++ text) = true := by
  cases piece with
  | nil => exact htext
  | cons char rest => exact hpiece

theorem TokenStream.prepend_append (first second : List Token) (stream : TokenStream) :
    prepend (first ++ second) stream = prepend first (prepend second stream) := by
  induction first with
  | nil => rfl
  | cons token others ih => rw [List.cons_append, prepend, prepend, ih]

namespace Spells

variable {tokens others : List Token} {piece next : List Char}

theorem nil : Spells [] [] :=
  fun _ _ => rfl

theorem ignored (hchar : isIgnored char = true) (hpiece : Spells tokens piece) :
    Spells tokens (char :: piece) := by
  intro text htext
  rw [List.cons_append, TokenStream.ofText_ignored hchar, hpiece text htext]

theorem punctuator (hmark : Punctuator.ofChar? char = some mark) (hpiece : Spells tokens piece) :
    Spells (.punctuator mark :: tokens) (char :: piece) := by
  intro text htext
  rw [List.cons_append, TokenStream.ofText_mark hmark, hpiece text htext, TokenStream.prepend]

/-- Two spellings in a row spell both, if the second does not go on with a name. -/
theorem append (hpiece : Spells tokens piece) (hend : endsName next = true)
    (hnext : Spells others next) : Spells (tokens ++ others) (piece ++ next) := by
  intro text htext
  rw [List.append_assoc, hpiece _ (endsName_append hend htext), hnext text htext,
    TokenStream.prepend_append]

theorem name (word : Name) : Spells [.name word] word.text.toList := by
  intro text htext
  rw [TokenStream.ofText_name word htext]
  rfl

/-- A name spells itself in front of a piece that does not go on with it. -/
theorem name_append (word : Name) (hend : endsName piece = true) (hpiece : Spells tokens piece) :
    Spells (.name word :: tokens) (word.text.toList ++ piece) :=
  (name word).append hend hpiece

theorem ignored_append {blanks : List Char} (hblanks : blanks.all isIgnored = true)
    (hpiece : Spells tokens piece) : Spells tokens (blanks ++ piece) := by
  induction blanks with
  | nil => exact hpiece
  | cons char rest ih =>
      rw [List.all_cons, Bool.and_eq_true] at hblanks
      exact (ih hblanks.2).ignored hblanks.1

/-- Pieces are spelled one after another when ignored characters stand between them. -/
theorem intercalate {ι : Type} {toTokens : ι → List Token} {toText : ι → String}
    {blanks : List Char} (hblanks : (char :: blanks).all isIgnored = true)
    (hends : endsName [char] = true) {items : List ι}
    (hitems : ∀ item ∈ items, Spells (toTokens item) (toText item).toList) :
    Spells (items.flatMap toTokens)
      ((char :: blanks).intercalate ((items.map toText).map String.toList)) := by
  induction items with
  | nil => exact nil
  | cons item rest ih =>
      have hitem := hitems item List.mem_cons_self
      cases rest with
      | nil => simpa using hitem
      | cons other others =>
          have hrest := ih fun item hmem => hitems item (List.mem_cons_of_mem _ hmem)
          rw [List.flatMap_cons, List.map_cons, List.map_cons, List.map_cons, List.map_cons,
            List.intercalate_cons_cons, List.append_assoc]
          exact hitem.append hends (ignored_append hblanks hrest)

/-- The tokens that a whole text spells are read from it. -/
theorem ofText_eq (hpiece : Spells tokens piece) :
    TokenStream.ofText piece = .ofTokens tokens := by
  have hread := hpiece [] rfl
  rw [List.append_nil] at hread
  exact hread

end Spells

end ActionHandler.Graphql
