import ActionHandler.Proofs.Javascript.Symbols

/-! # Declared names

The names that `const` and `let` declare at the outermost level of a program, and the names in
the scope of a function: its parameters and what its body declares outside of inner brackets.

Only declarations of one name or of an object pattern of names are read. A program that may
declare something in another way has no reading at all: by `var`, `function`, `class` or `import`,
or several at once.
-/

namespace ActionHandler.Javascript

open Graphql Handler

/-- Where a reader of declarations is. The depth is the number of open brackets, and a value
goes from the equals sign of a declaration to its semicolon. -/
inductive Stand
  | code (depth : Nat) (inValue : Bool)
  /-- Behind a dot, where a word is the name of a property. -/
  | member (depth : Nat) (inValue : Bool)
  /-- Behind a word that declares names in a way that is not read, unless it is just a name. -/
  | binder (depth : Nat) (inValue : Bool)
  /-- Where a declaration names what it declares. -/
  | target
  /-- Within a list of names, in front of a name or behind one. -/
  | names (close : Char) (expectsName : Bool)
  | bound
  | parameters
  | body
  | closed
  deriving DecidableEq, Repr

namespace Stand

/-- The words that declare names. -/
def declarators : List String :=
  ["const", "let"]

/-- The words that declare names in ways that are not read. -/
def binders : List String :=
  ["var", "function", "class", "import"]

/-- What a symbol does in code. -/
def inCode (depth : Nat) (inValue : Bool) : Symbol → Option Stand
  | .literal => some (.code depth inValue)
  | .word text =>
      if depth = 0 ∧ text ∈ declarators then some .target
      else if text ∈ binders then some (.binder depth inValue)
      else some (.code depth inValue)
  | .mark char =>
      if char ∈ ['\x7b', '(', '['] then some (.code (depth + 1) inValue)
      else if char ∈ ['\x7d', ')', ']'] then
        some (if depth = 0 then .closed else .code (depth - 1) inValue)
      else if char = '.' then some (.member depth inValue)
      else if depth = 0 ∧ char = ';' then some (.code 0 false)
      else if depth = 0 ∧ inValue ∧ char = ',' then none
      else some (.code depth inValue)

/-- What a symbol does, and the name that it declares if it does so. -/
def step : Stand → Symbol → Option (Stand × List String)
  | .code depth inValue, symbol => (inCode depth inValue symbol).map (·, [])
  | .member depth inValue, .word _ => some (.code depth inValue, [])
  | .member depth inValue, symbol => (inCode depth inValue symbol).map (·, [])
  | .binder _ _, .word _ => none
  | .binder depth inValue, symbol =>
      if symbol ∈ [.mark '\x7b', .mark '[', .mark '*'] then none
      else (inCode depth inValue symbol).map (·, [])
  | .target, .word text => if isIdentifier text.toList then some (.bound, [text]) else none
  | .target, symbol => if symbol = .mark '\x7b' then some (.names '\x7d' true, []) else none
  | .names close true, .word text =>
      if isIdentifier text.toList then some (.names close false, [text]) else none
  | .names close expectsName, symbol =>
      if symbol = .mark close then some (if close = ')' then .body else .bound, [])
      else if symbol = .mark ',' ∧ !expectsName then some (.names close true, [])
      else none
  | .bound, symbol => if symbol = .mark '=' then some (.code 0 true, []) else none
  | .parameters, symbol => if symbol = .mark '(' then some (.names ')' true, []) else none
  | .body, symbol => if symbol = .mark '\x7b' then some (.code 0 false, []) else none
  | .closed, _ => some (.closed, [])

/-- Reads symbols. -/
def run : Stand → List Symbol → Option (Stand × List String) :=
  runMachine step

end Stand

/-- Where a reader of characters and of the declarations in them is. -/
structure Cursor where
  mode : Mode
  stand : Stand
  deriving DecidableEq, Repr

/-- Reads characters and the declarations in them. -/
def Cursor.run (cursor : Cursor) (text : List Char) : Option (Cursor × List String) := do
  let (mode, symbols) ← cursor.mode.run text
  let (stand, names) ← cursor.stand.run symbols
  return (⟨mode, stand⟩, names)

/-- The names that a program declares at its outermost level. The end of the text ends a word
or a comment as a line feed does. -/
def declaredNames? (text : List Char) : Option (List String) :=
  match Cursor.run ⟨.code, .code 0 false⟩ (text ++ ['\n']) with
  | some (⟨.code, .code 0 _⟩, names) => some names
  | _ => none

/-- The names in the scope of a function, which a text starts with: its parameters and what its
body declares at its own level. -/
def functionNames? (text : List Char) : Option (List String) :=
  match Cursor.run ⟨.code, .parameters⟩ (text ++ ['\n']) with
  | some (⟨.code, .closed⟩, names) => some names
  | _ => none

/-- That a text leads a reader on, who reads the declarations of some names in it. -/
def Leads (before : Cursor) (text : List Char) (names : List String) (after : Cursor) : Prop :=
  before.run text = some (after, names)

instance (before : Cursor) (text : List Char) (names : List String) (after : Cursor) :
    Decidable (Leads before text names after) := by
  unfold Leads
  infer_instance

section

variable {before between after : Cursor} {first second rest : List Char}
  {names others : List String} {stand next : Stand} {symbols : List Symbol} {mode : Mode}

theorem leads_iff :
    Leads before first names after ↔ ∃ symbols,
      before.mode.run first = some (after.mode, symbols) ∧
        before.stand.run symbols = some (after.stand, names) := by
  simp only [Leads, Cursor.run, Option.bind_eq_bind, Option.bind_eq_some_iff, Prod.exists,
    Option.pure_def, Option.some.injEq, Prod.mk.injEq]
  constructor
  · rintro ⟨_, symbols, hmode, _, _, hstand, rfl, rfl⟩
    exact ⟨symbols, hmode, hstand⟩
  · rintro ⟨symbols, hmode, hstand⟩
    exact ⟨_, symbols, hmode, _, _, hstand, rfl, rfl⟩

theorem isWordChar_of_isIdentifier {word : List Char} (hword : isIdentifier word = true) :
    word ≠ [] ∧ ∀ char ∈ word, isWordChar char = true := by
  cases word with
  | nil => cases hword
  | cons first others =>
      simp only [isIdentifier, Bool.and_eq_true, List.all_eq_true] at hword
      refine ⟨List.cons_ne_nil first others, List.forall_mem_cons.mpr ⟨?_, hword.2⟩⟩
      rw [isWordChar, Bool.or_eq_true]
      exact (Bool.or_eq_true _ _ ▸ hword.1).imp_left isNameContinue_of_isNameStart

namespace Leads

theorem append (hfirst : Leads before first names between)
    (hsecond : Leads between second others after) :
    Leads before (first ++ second) (names ++ others) after := by
  obtain ⟨symbols, hmode, hstand⟩ := leads_iff.mp hfirst
  obtain ⟨later, hmode', hstand'⟩ := leads_iff.mp hsecond
  exact leads_iff.mpr ⟨symbols ++ later, runMachine_append hmode hmode',
    runMachine_append hstand hstand'⟩

/-- A text in which nothing is declared can stand in front of another. -/
theorem skip (hfirst : Leads before first [] between)
    (hsecond : Leads between second others after) :
    Leads before (first ++ second) others after :=
  hfirst.append hsecond

/-- A word is read as a whole when a character behind it ends it. -/
theorem word {name : String} (hname : isIdentifier name.toList = true) {char : Char}
    (hchar : isWordChar char = false) (hstep : stand.step (.word name) = some (next, names))
    (hrest : Leads ⟨.code, next⟩ (char :: rest) others after) :
    Leads ⟨.code, stand⟩ (name.toList ++ char :: rest) (names ++ others) after := by
  obtain ⟨symbols, hmode, hstand⟩ := leads_iff.mp hrest
  obtain ⟨hne, hword⟩ := isWordChar_of_isIdentifier hname
  have hwhole := Mode.run_word hne hword hchar hmode
  rw [String.ofList_toList] at hwhole
  exact leads_iff.mpr ⟨_, hwhole, runMachine_cons_iff.mpr ⟨next, _, _, hstep, hstand, rfl⟩⟩

end Leads

/-! ## Lists of names -/

/-- Names with commas between them. -/
def listed (words : List String) : List Symbol :=
  (words.map .word).intersperse (.mark ',')

/-- Names with commas between them, in braces. -/
def braced (words : List String) : List Symbol :=
  .mark '\x7b' :: (listed words ++ [.mark '\x7d'])

variable {words : List String}

namespace Mode

theorem run_blank {char : Char} (hchar : isBlank char = true)
    (hrest : run .code rest = some (mode, symbols)) :
    run .code (char :: rest) = some (mode, symbols) := by
  have hstep : step .code char = some (.code, []) := by simp [step, enter, hchar]
  exact runMachine_cons_iff.mpr ⟨_, [], symbols, hstep, hrest, rfl⟩

theorem run_mark {char : Char} (hchar : enter char = some (.code, [.mark char]))
    (hrest : run .code rest = some (mode, symbols)) :
    run .code (char :: rest) = some (mode, .mark char :: symbols) :=
  runMachine_cons_iff.mpr ⟨_, [.mark char], symbols, hchar, hrest, rfl⟩

theorem run_name {name : String} (hname : IsName name) {char : Char}
    (hchar : isWordChar char = false) (hrest : run .code (char :: rest) = some (mode, symbols)) :
    run .code (name.toList ++ char :: rest) = some (mode, .word name :: symbols) := by
  obtain ⟨hne, hword⟩ := isWordChar_of_isIdentifier (isIdentifier_of_isName hname)
  have hwhole := run_word hne hword hchar hrest
  rwa [String.ofList_toList] at hwhole

theorem run_namesBetween (hwords : ∀ word ∈ words, IsName word) {char : Char}
    (hchar : isWordChar char = false) (hrest : run .code (char :: rest) = some (mode, symbols)) :
    run .code (namesBetween words ++ char :: rest) = some (mode, listed words ++ symbols) := by
  induction words with
  | nil => exact hrest
  | cons word others ih =>
      obtain ⟨hword, hothers⟩ := List.forall_mem_cons.mp hwords
      cases others with
      | nil => simpa [namesBetween, listed] using run_name hword hchar hrest
      | cons other others =>
          have hcomma : run .code
              (',' :: ' ' :: (namesBetween (other :: others) ++ char :: rest)) =
                some (mode, .mark ',' :: (listed (other :: others) ++ symbols)) :=
            run_mark (by decide) (run_blank (by decide) (ih hothers))
          have hwhole := run_name hword (by decide) hcomma
          simpa [namesBetween, listed, List.intercalate_cons_cons] using hwhole

/-- The object pattern of arguments is names in braces. -/
theorem run_destructurePattern (hwords : ∀ word ∈ words, IsName word) :
    run .code (destructurePattern words).toList = some (.code, braced words) := by
  have hclose : run .code ['\x7d'] = some (.code, [.mark '\x7d']) := by decide
  have hnames := run_namesBetween hwords (by decide) hclose
  rw [toList_destructurePattern, List.cons_append]
  exact run_mark (by decide) hnames

/-- The object of variables is names in braces. -/
theorem run_variablesLiteral (hwords : ∀ word ∈ words, IsName word) :
    run .code (variablesLiteral words).toList = some (.code, braced words) := by
  by_cases hnil : words = []
  · subst hnil
    decide
  · have hclose : run .code [' ', '\x7d'] = some (.code, [.mark '\x7d']) := by decide
    have hnames := run_namesBetween hwords (by decide) hclose
    rw [toList_variablesLiteral hnil, List.cons_append]
    simpa [braced] using run_mark (by decide) (run_blank (by decide) hnames)

end Mode

namespace Stand

theorem run_listed (hwords : ∀ word ∈ words, IsName word) :
    run (.names '\x7d' true) (listed words ++ [.mark '\x7d']) = some (.bound, words) := by
  induction words with
  | nil => decide
  | cons word others ih =>
      obtain ⟨hword, hothers⟩ := List.forall_mem_cons.mp hwords
      have hstep : step (.names '\x7d' true) (.word word) =
          some (.names '\x7d' false, [word]) := by
        simp [step, isIdentifier_of_isName hword]
      cases others with
      | nil => exact runMachine_cons_iff.mpr ⟨_, _, [], hstep, by decide, rfl⟩
      | cons other others =>
          have hcomma : step (.names '\x7d' false) (.mark ',') =
              some (.names '\x7d' true, []) := by decide
          exact runMachine_cons_iff.mpr ⟨_, _, _, hstep,
            runMachine_cons_iff.mpr ⟨_, [], _, hcomma, ih hothers, rfl⟩, rfl⟩

/-- Names in braces that are declared. -/
theorem run_target_braced (hwords : ∀ word ∈ words, IsName word) :
    run .target (braced words) = some (.bound, words) := by
  have hopen : step .target (.mark '\x7b') = some (.names '\x7d' true, []) := by decide
  exact runMachine_cons_iff.mpr ⟨_, [], _, hopen, run_listed hwords, rfl⟩

/-- Within brackets, a word declares nothing when a mark ends it that no declaration goes on
with. -/
theorem run_word_mark {depth : Nat} {inValue : Bool} (text : String) {char : Char}
    (hchar : char ∉ ['\x7b', '[', '*'])
    (hmark : inCode (depth + 1) inValue (.mark char) = some next) :
    run (.code (depth + 1) inValue) [.word text, .mark char] = some (next, []) := by
  -- A name such as the word for a function makes the reader wait for what comes next.
  by_cases hbinder : text ∈ binders
  · have hword : step (.code (depth + 1) inValue) (.word text) =
        some (.binder (depth + 1) inValue, []) := by
      simp [step, inCode, hbinder]
    have hother : Symbol.mark char ∉ [.mark '\x7b', .mark '[', .mark '*'] := by
      simpa using hchar
    have hend : step (.binder (depth + 1) inValue) (.mark char) = some (next, []) := by
      simp only [step, if_neg hother, hmark, Option.map_some]
    exact runMachine_cons_iff.mpr ⟨_, [], [], hword,
      runMachine_cons_iff.mpr ⟨_, [], [], hend, rfl, rfl⟩, rfl⟩
  · have hword : step (.code (depth + 1) inValue) (.word text) =
        some (.code (depth + 1) inValue, []) := by
      simp [step, inCode, hbinder]
    have hend : step (.code (depth + 1) inValue) (.mark char) = some (next, []) := by
      rw [step, hmark, Option.map_some]
    exact runMachine_cons_iff.mpr ⟨_, [], [], hword,
      runMachine_cons_iff.mpr ⟨_, [], [], hend, rfl, rfl⟩, rfl⟩

/-- Names in braces that are only used. -/
theorem run_code_braced (depth : Nat) (inValue : Bool) :
    run (.code depth inValue) (braced words) = some (.code depth inValue, []) := by
  have hopen : step (.code depth inValue) (.mark '\x7b') =
      some (.code (depth + 1) inValue, []) := by simp [step, inCode]
  have hclose : inCode (depth + 1) inValue (.mark '\x7d') = some (.code depth inValue) := by
    simp [inCode]
  have hcomma : inCode (depth + 1) inValue (.mark ',') = some (.code (depth + 1) inValue) := by
    simp [inCode]
  refine runMachine_cons_iff.mpr ⟨_, [], [], hopen, ?_, rfl⟩
  induction words with
  | nil =>
      have hstep : step (.code (depth + 1) inValue) (.mark '\x7d') =
          some (.code depth inValue, []) := by
        rw [step, hclose, Option.map_some]
      exact runMachine_cons_iff.mpr ⟨_, [], [], hstep, rfl, rfl⟩
  | cons word others ih =>
      cases others with
      | nil => exact run_word_mark word (by decide) hclose
      | cons other others =>
          exact runMachine_append (run_word_mark word (by decide) hcomma) ih

end Stand

namespace Leads

/-- The object pattern of arguments declares them. -/
theorem declared_pattern (hwords : ∀ word ∈ words, IsName word) :
    Leads ⟨.code, .target⟩ (destructurePattern words).toList words ⟨.code, .bound⟩ :=
  leads_iff.mpr ⟨_, Mode.run_destructurePattern hwords, Stand.run_target_braced hwords⟩

/-- Within code, what looks like the object pattern of arguments declares nothing. -/
theorem used_pattern (hwords : ∀ word ∈ words, IsName word) (depth : Nat) (inValue : Bool) :
    Leads ⟨.code, .code depth inValue⟩ (destructurePattern words).toList []
      ⟨.code, .code depth inValue⟩ :=
  leads_iff.mpr ⟨_, Mode.run_destructurePattern hwords, Stand.run_code_braced depth inValue⟩

theorem used_variables (hwords : ∀ word ∈ words, IsName word) (depth : Nat) (inValue : Bool) :
    Leads ⟨.code, .code depth inValue⟩ (variablesLiteral words).toList []
      ⟨.code, .code depth inValue⟩ :=
  leads_iff.mpr ⟨_, Mode.run_variablesLiteral hwords, Stand.run_code_braced depth inValue⟩

theorem escaped (source : String) (stand : Stand) : ∃ afterDollar,
    Leads ⟨.template false false, stand⟩ (escapeTemplateLiteral source).toList []
      ⟨.template false afterDollar, stand⟩ := by
  obtain ⟨afterDollar, hrun⟩ := Mode.run_escapeOnward source.toList false (by simp)
  rw [escapeTemplateLiteral, String.toList_ofList, escapeTemplateChars_eq_escapeOnward]
  exact ⟨afterDollar, leads_iff.mpr ⟨[], hrun, rfl⟩⟩

/-! ## The body of a response -/

theorem used_mark {text : List Char} (char : Char) {depth : Nat} {inValue : Bool}
    (hmode : Mode.run .code text = some (.code, [.mark char]))
    (hmark : Stand.inCode depth inValue (.mark char) = some next) :
    Leads ⟨.code, .code depth inValue⟩ text [] ⟨.code, next⟩ := by
  have hstep : Stand.step (.code depth inValue) (.mark char) = some (next, []) := by
    rw [Stand.step, hmark, Option.map_some]
  exact leads_iff.mpr ⟨_, hmode, runMachine_cons_iff.mpr ⟨_, [], [], hstep, rfl, rfl⟩⟩

/-- A field with empty text declares nothing. -/
theorem used_member {field : String} (hfield : IsName field) (depth : Nat) (inValue : Bool) :
    Leads ⟨.code, .code (depth + 1) inValue⟩ (field ++ ": \"\"").toList []
      ⟨.code, .code (depth + 1) inValue⟩ := by
  have hvalue : Mode.run .code [':', ' ', '\x22', '\x22'] =
      some (.code, [.mark ':', .literal]) := by decide
  have hcolon : Stand.inCode (depth + 1) inValue (.mark ':') =
      some (.code (depth + 1) inValue) := by
    simp [Stand.inCode]
  rw [String.toList_append]
  exact leads_iff.mpr ⟨_, Mode.run_name hfield (by decide) hvalue,
    runMachine_append (Stand.run_word_mark field (by decide) hcolon) rfl⟩

/-- The body of a response declares nothing. -/
theorem used_body {fields : List String} (hfields : ∀ field ∈ fields, IsName field)
    (depth : Nat) (inValue : Bool) :
    Leads ⟨.code, .code depth inValue⟩ (outputLiteral fields).toList []
      ⟨.code, .code depth inValue⟩ := by
  by_cases hnil : fields = []
  · rw [hnil]
    exact used_pattern (fun _ hword => absurd hword List.not_mem_nil) depth inValue
  have hopen : Leads ⟨.code, .code depth inValue⟩ "\x7b\n      ".toList []
      ⟨.code, .code (depth + 1) inValue⟩ :=
    used_mark '\x7b' (by decide) (by simp [Stand.inCode])
  have hclose : Leads ⟨.code, .code (depth + 1) inValue⟩ "\n    \x7d".toList []
      ⟨.code, .code depth inValue⟩ :=
    used_mark '\x7d' (by decide) (by simp [Stand.inCode])
  have hcomma : Leads ⟨.code, .code (depth + 1) inValue⟩ ",\n      ".toList []
      ⟨.code, .code (depth + 1) inValue⟩ :=
    used_mark ',' (by decide) (by simp [Stand.inCode])
  have hmembers : Leads ⟨.code, .code (depth + 1) inValue⟩
      (",\n      ".toList.intercalate ((members fields).map String.toList)) []
      ⟨.code, .code (depth + 1) inValue⟩ := by
    clear hnil hopen hclose
    induction fields with
    | nil => rfl
    | cons field others ih =>
        obtain ⟨hfield, hothers⟩ := List.forall_mem_cons.mp hfields
        have hmember := used_member hfield depth inValue
        cases others with
        | nil => simpa [members] using hmember
        | cons other others =>
            simpa [members, List.intercalate_cons_cons] using
              hmember.skip (hcomma.skip (ih hothers))
  rw [toList_outputLiteral hnil]
  exact (hopen.skip hmembers).skip hclose

end Leads

end

end ActionHandler.Javascript
