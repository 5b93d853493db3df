import ActionHandler.Proofs.Handler.Escaping
import ActionHandler.Proofs.Javascript.NameList

/-! # Symbols of a program

How JavaScript splits a program into words, marks and literals, one character after another.
Comments at the end of a line are left out, and so is what stands in quotes and in template
literals. Where a program cannot be split like this, because of a regular expression, a
substitution in a template literal or an escape in a string, it is not split at all.
-/

namespace ActionHandler.Javascript

open Graphql Handler

/-- A machine that reads inputs in order and gives outputs, or stops. -/
def runMachine {σ ι ω : Type} (step : σ → ι → Option (σ × List ω)) :
    σ → List ι → Option (σ × List ω)
  | state, [] => some (state, [])
  | state, first :: rest => do
      let (next, outputs) ← step state first
      let (last, others) ← runMachine step next rest
      return (last, outputs ++ others)

section

variable {σ ι ω : Type} {step : σ → ι → Option (σ × List ω)} {before between after : σ}
  {input : ι} {first second rest : List ι} {outputs others : List ω}

theorem runMachine_cons_iff :
    runMachine step before (input :: rest) = some (after, outputs) ↔
      ∃ next early late, step before input = some (next, early) ∧
        runMachine step next rest = some (after, late) ∧ outputs = early ++ late := by
  simp only [runMachine, Option.bind_eq_bind, Option.bind_eq_some_iff, Prod.exists,
    Option.pure_def, Option.some.injEq, Prod.mk.injEq]
  constructor
  · rintro ⟨next, early, hstep, _, late, hrest, rfl, rfl⟩
    exact ⟨next, early, late, hstep, hrest, rfl⟩
  · rintro ⟨next, early, late, hstep, hrest, rfl⟩
    exact ⟨next, early, hstep, after, late, hrest, rfl, rfl⟩

/-- A machine reads one text behind another from where it stands behind the first. -/
theorem runMachine_append (hfirst : runMachine step before first = some (between, outputs))
    (hsecond : runMachine step between second = some (after, others)) :
    runMachine step before (first ++ second) = some (after, outputs ++ others) := by
  induction first generalizing before outputs with
  | nil =>
      cases hfirst
      exact hsecond
  | cons input rest ih =>
      obtain ⟨next, early, late, hstep, hrest, rfl⟩ := runMachine_cons_iff.mp hfirst
      rw [List.cons_append, List.append_assoc]
      exact runMachine_cons_iff.mpr ⟨next, early, _, hstep, ih hrest, rfl⟩

end

/-- A symbol of a program. Marks are single characters, and literals do not tell what they
stand for. -/
inductive Symbol
  | word (text : String)
  | mark (char : Char)
  | literal
  deriving DecidableEq, Repr

/-- What a reader of characters is in. A word is read backwards. -/
inductive Mode
  | code
  | word (read : List Char)
  | slash
  | comment
  | quoted (mark : Char)
  | template (afterBackslash afterDollar : Bool)
  deriving DecidableEq, Repr

/-- Whether a character can stand in a word: an identifier, a keyword or a number. -/
def isWordChar (char : Char) : Bool :=
  isNameContinue char || char == '$'

/-- Whether a character ends a line. -/
def endsLine (char : Char) : Bool :=
  ['\n', '\r', '\u2028', '\u2029'].contains char

/-- The marks of JavaScript, other than the slash. -/
def marks : List Char :=
  ['\x7b', '\x7d', '(', ')', '[', ']', ';', ',', '.', '<', '>', '=', '+', '-', '*', '%', '&',
    '|', '^', '!', '~', '?', ':']

namespace Mode

/-- What a character does between symbols. -/
def enter (char : Char) : Option (Mode × List Symbol) :=
  if isBlank char then some (.code, [])
  else if isWordChar char then some (.word [char], [])
  else if char = '/' then some (.slash, [])
  else if char = '\x27' ∨ char = '\x22' then some (.quoted char, [])
  else if char = '\x60' then some (.template false false, [])
  else if marks.contains char then some (.code, [.mark char])
  else none

/-- What a character does. -/
def step : Mode → Char → Option (Mode × List Symbol)
  | .code, char => enter char
  | .word read, char =>
      if isWordChar char then some (.word (char :: read), [])
      else
        (enter char).map fun (mode, symbols) =>
          (mode, .word (String.ofList read.reverse) :: symbols)
  | .slash, char => if char = '/' then some (.comment, []) else none
  | .comment, char => some (if endsLine char then .code else .comment, [])
  | .quoted mark, char =>
      if char = mark then some (.code, [.literal])
      else if char = '\\' ∨ endsLine char then none
      else some (.quoted mark, [])
  | .template true _, _ => some (.template false false, [])
  | .template false afterDollar, char =>
      if char = '\\' then some (.template true false, [])
      else if char = '\x60' then some (.code, [.literal])
      else if afterDollar ∧ char = '\x7b' then none
      else some (.template false (char == '$'), [])

/-- Reads characters. -/
def run : Mode → List Char → Option (Mode × List Symbol) :=
  runMachine step

variable {word rest : List Char} {symbols : List Symbol} {after : Mode}

theorem run_word_chars (read : List Char) (hword : ∀ char ∈ word, isWordChar char = true) :
    run (.word read) word = some (.word (word.reverse ++ read), []) := by
  induction word generalizing read with
  | nil => rfl
  | cons char others ih =>
      obtain ⟨hchar, hothers⟩ := List.forall_mem_cons.mp hword
      have hstep : step (.word read) char = some (.word (char :: read), []) := by
        simp [step, hchar]
      rw [List.reverse_cons, List.append_assoc]
      exact runMachine_cons_iff.mpr ⟨_, [], [], hstep, ih (char :: read) hothers, rfl⟩

theorem isBlank_of_isWordChar {char : Char} (hchar : isWordChar char = true) :
    isBlank char = false := by
  rw [isWordChar, Bool.or_eq_true, beq_iff_eq] at hchar
  obtain hname | rfl := hchar
  · exact isBlank_of_isNameContinue hname
  · decide

/-- A word is read as one symbol when a character behind it ends it. -/
theorem run_word (hne : word ≠ []) (hword : ∀ char ∈ word, isWordChar char = true)
    {char : Char} (hchar : isWordChar char = false)
    (hrest : run .code (char :: rest) = some (after, symbols)) :
    run .code (word ++ char :: rest) = some (after, .word (String.ofList word) :: symbols) := by
  obtain ⟨first, others, rfl⟩ := List.exists_cons_of_ne_nil hne
  obtain ⟨hfirst, hothers⟩ := List.forall_mem_cons.mp hword
  have henter : step .code first = some (.word [first], []) := by
    simp [step, enter, isBlank_of_isWordChar hfirst, hfirst]
  obtain ⟨next, early, late, hstep, hlate, rfl⟩ := runMachine_cons_iff.mp hrest
  -- The character behind the word does what it does between symbols, once the word is put out.
  have hend : step (.word (others.reverse ++ [first])) char =
      some (next, .word (String.ofList (first :: others)) :: early) := by
    have hstep' : enter char = some (next, early) := hstep
    have hread : (others.reverse ++ [first]).reverse = first :: others := by simp
    simp [step, hchar, hstep', hread]
  have hbehind := runMachine_cons_iff.mpr ⟨next, _, late, hend, hlate, rfl⟩
  exact runMachine_cons_iff.mpr
    ⟨_, [], _, henter, runMachine_append (run_word_chars [first] hothers) hbehind, rfl⟩

/-- Escaped text stays in its template literal. -/
theorem run_escapeOnward (text : List Char) (afterDollar : Bool)
    (hdollar : afterDollar = true → text.head? ≠ some '\x7b') :
    ∃ next, run (.template false afterDollar) (escapeOnward text) =
      some (.template false next, []) := by
  -- The escaping looks one character ahead and the reader one back: they meet at a dollar sign.
  induction text generalizing afterDollar with
  | nil => exact ⟨afterDollar, rfl⟩
  | cons char rest ih =>
      by_cases hescape : needsEscape char rest
      · have hslash : step (.template false afterDollar) '\\' =
            some (.template true false, []) := rfl
        have hchar : step (.template true false) char = some (.template false false, []) := rfl
        obtain ⟨next, hrest⟩ := ih false (by simp)
        rw [escapeOnward_of_needsEscape hescape]
        exact ⟨next, runMachine_cons_iff.mpr ⟨_, [], [], hslash,
          runMachine_cons_iff.mpr ⟨_, [], [], hchar, hrest, rfl⟩, rfl⟩⟩
      · obtain ⟨hslash, hquote, hbrace⟩ :
            char ≠ '\\' ∧ char ≠ '\x60' ∧ (char = '$' → rest.head? ≠ some '\x7b') := by
          simpa [needsEscape] using hescape
        have hopen : ¬ (afterDollar = true ∧ char = '\x7b') := by
          rintro ⟨hafter, rfl⟩
          exact hdollar hafter rfl
        have hstep : step (.template false afterDollar) char =
            some (.template false (char == '$'), []) := by
          rw [step, if_neg hslash, if_neg hquote, if_neg hopen]
        obtain ⟨next, hrest⟩ := ih (char == '$') (by simpa using hbrace)
        rw [escapeOnward_of_not_needsEscape hescape]
        exact ⟨next, runMachine_cons_iff.mpr ⟨_, [], [], hstep, hrest, rfl⟩⟩

end Mode

end ActionHandler.Javascript
