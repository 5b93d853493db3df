import ActionHandler.Graphql.Grammar.Value
import ActionHandler.Proofs.Graphql.Spelling
import ActionHandler.Proofs.Result

/-! # Reading what is written

A phrase is a part of a document together with what it is read as. Readers are run here on
streams of tokens that end well, where a reader either takes its phrase and leaves what follows,
or stops because the phrase is nested too deeply.
-/

namespace ActionHandler.Graphql.Grammar

open TokenStream

variable {α : Type} {mark openMark close : Punctuator} {tokens rest ending : List Token}

/-- A part of a document: its tokens, the value that it stands for, and whether it is nested no
deeper than its reader goes. -/
structure Phrase (α : Type) where
  tokens : List Token
  value : α
  isShallow : Bool

/-- What it comes to when a phrase is read in front of other tokens. -/
def Phrase.outcome (phrase : Phrase α) (rest : List Token) :
    Except SyntaxError (α × TokenStream) :=
  if phrase.isShallow then .ok (phrase.value, ofTokens rest) else .error .tooDeep

/-- That a reader takes a phrase in front of other tokens, if it is not nested too deeply. -/
def Reads (reader : Reader α) (phrase : Phrase α) (rest : List Token) : Prop :=
  reader.run (ofTokens (phrase.tokens ++ rest)) = phrase.outcome rest

@[simp] theorem run_peek : peek.run (ofTokens tokens) = .ok (tokens.head?, ofTokens tokens) := by
  cases tokens <;> rfl

@[simp] theorem run_settle (stream : TokenStream) :
    (settle (ofTokens tokens)).run stream = .ok ((), ofTokens tokens) := by
  cases tokens <;> rfl

@[simp] theorem run_advance (first : Token) :
    advance.run (ofTokens (first :: rest)) = .ok ((), ofTokens rest) := by
  cases rest <;> rfl

@[simp] theorem run_name (word : Name) :
    name.run (ofTokens (.name word :: rest)) = .ok (word, ofTokens rest) := by
  simp [name]

@[simp] theorem run_expect (mark : Punctuator) :
    (expect mark).run (ofTokens (.punctuator mark :: rest)) = .ok ((), ofTokens rest) := by
  simp [expect]

@[simp] theorem run_isAt (mark : Punctuator) :
    (isAt mark).run (ofTokens tokens) =
      .ok (tokens.head? == some (.punctuator mark), ofTokens tokens) := by
  simp [isAt]

theorem run_optional (mark : Punctuator) :
    (optional mark).run (ofTokens (.punctuator mark :: rest)) = .ok (true, ofTokens rest) := by
  simp [optional]

theorem run_optional_of_ne (mark : Punctuator)
    (hne : tokens.head? ≠ some (.punctuator mark)) :
    (optional mark).run (ofTokens tokens) = .ok (false, ofTokens tokens) := by
  simp [optional, hne]

theorem run_optional_name (mark : Punctuator) (word : Name) :
    (optional mark).run (ofTokens (.name word :: rest)) =
      .ok (false, ofTokens (.name word :: rest)) :=
  run_optional_of_ne mark (by simp)

theorem run_optionalKeyword_of_not {keyword : String}
    (hkeyword : isKeyword keyword tokens.head? = false) :
    (optionalKeyword keyword).run (ofTokens tokens) = .ok (false, ofTokens tokens) := by
  simp [optionalKeyword, hkeyword]

theorem run_description_name (word : Name) :
    description.run (ofTokens (.name word :: rest)) =
      .ok (none, ofTokens (.name word :: rest)) := by
  simp [description]

theorem run_repeatAlong_nil {more : Reader Bool} (item : Reader α) (along : List Token)
    (hend : more.run (ofTokens ending) = .ok (false, ofTokens rest)) :
    (repeatAlong more item (ofTokens along)).run (ofTokens ending) = .ok ([], ofTokens rest) := by
  cases along <;> simp [ofTokens, prepend, repeatAlong] at hend ⊢ <;> simp [hend]

theorem run_directives_of_ne (isConstant : Bool) (depth : Nat)
    (hne : tokens.head? ≠ some (.punctuator .at)) :
    (directives isConstant depth).run (ofTokens tokens) = .ok ([], ofTokens tokens) := by
  have hat : (tokens.head? == some (.punctuator .at)) = false := by simpa using hne
  have hend : (isAt .at).run (ofTokens tokens) = .ok (false, ofTokens tokens) := by
    rw [run_isAt, hat]
  have hnone := run_repeatAlong_nil (directive isConstant depth) tokens hend
  simp [directives, repeatWhile, hnone]

theorem run_defaultValue_of_ne (hne : tokens.head? ≠ some (.punctuator .equals)) :
    defaultValue.run (ofTokens tokens) = .ok (none, ofTokens tokens) := by
  simp [defaultValue, run_optional_of_ne .equals hne]

namespace Phrase

/-- Phrases in a row. -/
def all (phrases : List (Phrase α)) : Phrase (List α) where
  tokens := phrases.flatMap (·.tokens)
  value := phrases.map (·.value)
  isShallow := phrases.all (·.isShallow)

theorem all_cons (phrase : Phrase α) (others : List (Phrase α)) :
    all (phrase :: others) = ⟨phrase.tokens ++ (all others).tokens,
      phrase.value :: (all others).value, phrase.isShallow && (all others).isShallow⟩ :=
  rfl

/-- Phrases between two marks, which are left out if there are no phrases. -/
def between (openMark close : Punctuator) : List (Phrase α) → Phrase (List α)
  | [] => ⟨[], [], true⟩
  | phrases => { all phrases with
      tokens := .punctuator openMark :: (all phrases).tokens ++ [.punctuator close] }

@[simp] theorem value_between (phrases : List (Phrase α)) :
    (between openMark close phrases).value = phrases.map (·.value) := by
  cases phrases <;> rfl

@[simp] theorem isShallow_between (phrases : List (Phrase α)) :
    (between openMark close phrases).isShallow = phrases.all (·.isShallow) := by
  cases phrases <;> rfl

/-- That a phrase can stand in a row of phrases that a reader takes: it starts with a name, it
is read in front of certain tokens, and it starts with such tokens itself. -/
structure IsItem (item : Reader α) (mayFollow : List Token → Bool) (phrase : Phrase α) :
    Prop where
  starts : ∃ word others, phrase.tokens = .name word :: others
  follows : ∀ rest, mayFollow (phrase.tokens ++ rest) = true
  reads : ∀ rest, mayFollow rest = true → Reads item phrase rest

end Phrase

open Phrase

/-- What may stand behind a row of phrases may also stand before it if there are none. -/
theorem mayFollow_all {item : Reader α} {mayFollow : List Token → Bool}
    {phrases : List (Phrase α)} (hending : mayFollow ending = true)
    (hphrases : ∀ phrase ∈ phrases, IsItem item mayFollow phrase) :
    mayFollow ((all phrases).tokens ++ ending) = true := by
  cases phrases with
  | nil => exact hending
  | cons first others =>
      rw [all, List.flatMap_cons, List.append_assoc]
      exact (hphrases first List.mem_cons_self).follows _

/-- Phrases in a row are read one after another, as long as the loop has tokens to go along. -/
theorem run_repeatAlong {more : Reader Bool} {item : Reader α} {mayFollow : List Token → Bool}
    {phrases : List (Phrase α)} {along : List Token}
    (hmore : ∀ word others, more.run (ofTokens (.name word :: others)) =
      .ok (true, ofTokens (.name word :: others)))
    (hend : more.run (ofTokens ending) = .ok (false, ofTokens rest))
    (hending : mayFollow ending = true)
    (hphrases : ∀ phrase ∈ phrases, IsItem item mayFollow phrase)
    (halong : phrases.length ≤ along.length) :
    (repeatAlong more item (ofTokens along)).run (ofTokens ((all phrases).tokens ++ ending)) =
      (all phrases).outcome rest := by
  -- The loop goes along the tokens that it started with, so these have to last for all phrases.
  induction phrases generalizing along with
  | nil => exact run_repeatAlong_nil item along hend
  | cons phrase others ih =>
      obtain ⟨hphrase, hothers⟩ := List.forall_mem_cons.mp hphrases
      obtain ⟨token, along, rfl⟩ := List.exists_cons_of_length_pos
        (Nat.lt_of_lt_of_le (Nat.succ_pos _) halong)
      have hrest := ih hothers (Nat.le_of_succ_le_succ halong)
      have hread := hphrase.reads _ (mayFollow_all hending hothers)
      obtain ⟨word, tail, hstarts⟩ := hphrase.starts
      -- A phrase starts with a name, which is what tells the loop that there is another one.
      have hagain : more.run (ofTokens (phrase.tokens ++ ((all others).tokens ++ ending))) =
          .ok (true, ofTokens (phrase.tokens ++ ((all others).tokens ++ ending))) := by
        rw [hstarts]
        exact hmore word _
      rw [all_cons, List.append_assoc, ofTokens_cons, repeatAlong]
      simp only [StateT.run_bind, hagain, ok_bind, if_true]
      rw [hread, outcome, outcome]
      cases phrase.isShallow with
      | false => rfl
      | true =>
          simp only [if_true, ok_bind, Bool.true_and]
          rw [hrest, outcome]
          cases (all others).isShallow <;> rfl

/-- There are never more phrases than tokens. -/
theorem length_le_of_isItem {item : Reader α} {mayFollow : List Token → Bool}
    {phrases : List (Phrase α)} (hphrases : ∀ phrase ∈ phrases, IsItem item mayFollow phrase) :
    phrases.length ≤ ((all phrases).tokens ++ ending).length := by
  induction phrases with
  | nil => exact Nat.zero_le _
  | cons phrase others ih =>
      obtain ⟨hphrase, hothers⟩ := List.forall_mem_cons.mp hphrases
      obtain ⟨word, tail, hstarts⟩ := hphrase.starts
      have hrest := ih hothers
      rw [all_cons, hstarts]
      simp only [List.length_append, List.length_cons] at hrest ⊢
      omega

/-- A loop takes phrases in a row. -/
theorem run_repeatWhile {more : Reader Bool} {item : Reader α} {mayFollow : List Token → Bool}
    {phrases : List (Phrase α)}
    (hmore : ∀ word others, more.run (ofTokens (.name word :: others)) =
      .ok (true, ofTokens (.name word :: others)))
    (hend : more.run (ofTokens ending) = .ok (false, ofTokens rest))
    (hending : mayFollow ending = true)
    (hphrases : ∀ phrase ∈ phrases, IsItem item mayFollow phrase) :
    (repeatWhile more item).run (ofTokens ((all phrases).tokens ++ ending)) =
      (all phrases).outcome rest := by
  rw [repeatWhile, StateT.run_bind, StateT.run_get]
  exact run_repeatAlong hmore hend hending hphrases (length_le_of_isItem hphrases)

/-- Phrases between marks are read, or else none. -/
theorem reads_optionalBetween {item : Reader α} (mayFollow : List Token → Bool)
    {phrases : List (Phrase α)} (hopen : rest.head? ≠ some (.punctuator openMark))
    (hclose : mayFollow (.punctuator close :: rest) = true)
    (hphrases : ∀ phrase ∈ phrases, IsItem item mayFollow phrase) :
    Reads (optionalBetween openMark close item) (between openMark close phrases) rest := by
  cases phrases with
  | nil =>
      have hnone : (rest.head? == some (.punctuator openMark)) = false := by simpa using hopen
      simp [Reads, between, outcome, optionalBetween, hnone]
  | cons first others =>
      obtain ⟨hfirst, hothers⟩ := List.forall_mem_cons.mp hphrases
      have hend : (do return !(← optional close) : Reader Bool).run
          (ofTokens (.punctuator close :: rest)) = .ok (false, ofTokens rest) := by
        simp [run_optional]
      have hmore : ∀ word others, (do return !(← optional close) : Reader Bool).run
          (ofTokens (.name word :: others)) = .ok (true, ofTokens (.name word :: others)) := by
        intro word others
        simp [run_optional_name]
      have hrest := run_repeatWhile hmore hend hclose hothers
      have hread := hfirst.reads _ (mayFollow_all hclose hothers)
      simp only [Reads, between, all_cons, List.append_assoc, List.cons_append, List.nil_append,
        optionalBetween, someBetween, StateT.run_bind, run_isAt, ok_bind, List.head?_cons,
        beq_self_eq_true, if_true, run_expect]
      rw [hread, outcome, outcome]
      cases first.isShallow with
      | false => rfl
      | true =>
          simp only [if_true, ok_bind, Bool.true_and]
          rw [untilClosed, hrest, outcome]
          cases (all others).isShallow <;> rfl

end ActionHandler.Graphql.Grammar
