import ActionHandler.Proofs.Handler.TemplateLines
import ActionHandler.Proofs.Javascript.Declarations

/-! # Declarations of a template

What a filled template declares can be read off the template when it is known what kind of text
each hole is filled with: a word, an object pattern, or the text of a template literal. The
template is read once, with holes in place of names, and the reading holds for all texts.
-/

namespace ActionHandler.Handler

open Graphql Javascript

/-- The kinds of texts that fill a hole. -/
inductive Filling
  /-- An identifier that does not announce a declaration. -/
  | word
  /-- Any identifier, as the name of a property. -/
  | property
  /-- An object pattern of names. -/
  | pattern
  /-- An object or another value in which brackets are closed. -/
  | value
  /-- The escaped text of a template literal. -/
  | escaped
  deriving DecidableEq, Repr

/-- That a text is of a kind, with the names that it declares where it can declare any. -/
inductive Fills : Filling → String → List String → Prop
  | word {name : String} (hname : isIdentifier name.toList = true)
      (hdeclarator : name ∉ Stand.declarators) (hbinder : name ∉ Stand.binders) :
      Fills .word name [name]
  | property {name : String} (hname : isIdentifier name.toList = true) : Fills .property name []
  | pattern {names : List String} (hnames : ∀ name ∈ names, IsName name) :
      Fills .pattern (destructurePattern names) names
  | value {text : String}
      (hvalue : ∀ depth inValue, Leads ⟨.code, .code depth inValue⟩ text.toList []
        ⟨.code, .code depth inValue⟩) :
      Fills .value text []
  | escaped (source : String) : Fills .escaped (escapeTemplateLiteral source) []

namespace Filling

/-- What a hole does to a reader, and whether it declares its names. -/
def step (filling : Filling) (cursor : Cursor) : Option (Cursor × Bool) :=
  match filling with
  | .word =>
      match cursor with
      | ⟨.code, .target⟩ => some (⟨.code, .bound⟩, true)
      | ⟨.code, .code depth inValue⟩ => some (⟨.code, .code depth inValue⟩, false)
      | _ => none
  | .property =>
      match cursor with
      | ⟨.code, .member depth inValue⟩ => some (⟨.code, .code depth inValue⟩, false)
      | _ => none
  | .pattern =>
      match cursor with
      | ⟨.code, .target⟩ => some (⟨.code, .bound⟩, true)
      | ⟨.code, .code depth inValue⟩ => some (⟨.code, .code depth inValue⟩, false)
      | _ => none
  | .value =>
      match cursor with
      | ⟨.code, .code depth inValue⟩ => some (⟨.code, .code depth inValue⟩, false)
      | _ => none
  | .escaped =>
      match cursor with
      | ⟨.template false false, stand⟩ => some (⟨.template false false, stand⟩, false)
      | _ => none

/-- Whether a character may stand behind a hole. -/
def endsAt : Filling → Char → Bool
  | .word, char => !isWordChar char
  | .property, char => !isWordChar char
  | .escaped, char => char == '\n'
  | _, _ => true

end Filling

/-- A name that a template declares: its own, or those of a hole. -/
inductive Declared
  | own (name : String)
  | hole (name : String)
  deriving DecidableEq, Repr

/-- The names that stand for a declared name. -/
def Declared.fill (names : String → List String) : Declared → List String
  | .own name => [name]
  | .hole name => names name

/-- Reads the declarations of places. -/
def readPlaces (filling : String → Filling) :
    Cursor → List Place → Option (Cursor × List Declared)
  | cursor, [] => some (cursor, [])
  | cursor, .own char :: rest => do
      let (next, names) ← cursor.run [char]
      let (last, others) ← readPlaces filling next rest
      return (last, names.map .own ++ others)
  | cursor, .hole name :: .own char :: rest =>
      if (filling name).endsAt char then do
        let (next, declares) ← (filling name).step cursor
        let (last, others) ← readPlaces filling next (.own char :: rest)
        return (last, (if declares then [.hole name] else []) ++ others)
      else none
  | _, .hole _ :: _ => none

variable {filling : String → Filling} {text : String → String} {names : String → List String}
  {before after : Cursor} {places : List Place} {declared : List Declared}

/-- Behind the escaped text of a template literal, a line feed is the same in any case. -/
theorem leads_lineFeed {afterDollar : Bool} {stand : Stand} {rest : List Char}
    {found : List String}
    (hrest : Leads ⟨.template false false, stand⟩ ('\n' :: rest) found after) :
    Leads ⟨.template false afterDollar, stand⟩ ('\n' :: rest) found after := by
  obtain ⟨symbols, hmode, hstand⟩ := leads_iff.mp hrest
  refine leads_iff.mpr ⟨symbols, ?_, hstand⟩
  cases afterDollar <;> exact hmode

/-- A hole that is filled does what its kind says. -/
theorem leads_hole {kind : Filling} {word : String} {found others : List String} {char : Char}
    {rest : List Char} {next : Cursor} {declares : Bool} (hfills : Fills kind word found)
    (hchar : kind.endsAt char = true) (hstep : kind.step before = some (next, declares))
    (hrest : Leads next (char :: rest) others after) :
    Leads before (word.toList ++ char :: rest) ((if declares then found else []) ++ others)
      after := by
  cases hfills with
  | word hname hdeclarator hbinder =>
      have hend : isWordChar char = false := by simpa [Filling.endsAt] using hchar
      simp only [Filling.step] at hstep
      split at hstep <;> cases hstep
      · exact .word hname hend (by simp [Stand.step, hname]) hrest
      · exact .word hname hend (by simp [Stand.step, Stand.inCode, hdeclarator, hbinder]) hrest
  | property hname =>
      have hend : isWordChar char = false := by simpa [Filling.endsAt] using hchar
      simp only [Filling.step] at hstep
      split at hstep <;> cases hstep
      exact .word hname hend rfl hrest
  | pattern hnames =>
      simp only [Filling.step] at hstep
      split at hstep <;> cases hstep
      · exact (Leads.declared_pattern hnames).append hrest
      · exact (Leads.used_pattern hnames _ _).skip hrest
  | value hvalue =>
      simp only [Filling.step] at hstep
      split at hstep <;> cases hstep
      exact (hvalue _ _).skip hrest
  | escaped source =>
      obtain rfl : char = '\n' := by simpa [Filling.endsAt] using hchar
      simp only [Filling.step] at hstep
      split at hstep <;> cases hstep
      next stand =>
        obtain ⟨afterDollar, hsource⟩ := Leads.escaped source stand
        exact hsource.skip (leads_lineFeed hrest)

/-- What is read off a template is what any filled template declares. -/
theorem leads_of_readPlaces (hread : readPlaces filling before places = some (after, declared))
    (hfills : ∀ name, .hole name ∈ places → Fills (filling name) (text name) (names name)) :
    Leads before (places.flatMap (Place.fill text)) (declared.flatMap (Declared.fill names))
      after := by
  fun_induction readPlaces filling before places generalizing declared with
  | case1 cursor =>
      cases hread
      rfl
  | case2 cursor char rest ih =>
      simp only [Option.bind_eq_bind, Option.bind_eq_some_iff, Prod.exists,
        Option.pure_def, Option.some.injEq, Prod.mk.injEq] at hread
      obtain ⟨next, early, hchar, _, late, hlate, rfl, rfl⟩ := hread
      have hfirst : Leads cursor [char] early next := hchar
      have hrest := ih next hlate fun name hname => hfills name (List.mem_cons_of_mem _ hname)
      simpa [Place.fill, Declared.fill, List.flatMap_map] using hfirst.append hrest
  -- The text of a hole is read together with the character behind it, which ends it.
  | case3 cursor name char rest hend ih =>
      simp only [Option.bind_eq_bind, Option.bind_eq_some_iff, Prod.exists,
        Option.pure_def, Option.some.injEq, Prod.mk.injEq] at hread
      obtain ⟨next, declares, hstep, _, others, hothers, rfl, rfl⟩ := hread
      have hrest : Leads next (char :: rest.flatMap (Place.fill text)) _ _ :=
        ih next hothers fun name hname => hfills name (List.mem_cons_of_mem _ hname)
      have hwhole := leads_hole (hfills name List.mem_cons_self) hend hstep hrest
      cases declares <;> simpa [Place.fill, Declared.fill] using hwhole
  | case4 => cases hread
  | case5 => cases hread

end ActionHandler.Handler
