import ActionHandler.Handler.Fragment
import ActionHandler.Proofs.Result
import ActionHandler.Proofs.Text.RawText

/-! # Rendered handlers

Rendering puts texts into holes and changes nothing else. A context has a text for every
hole of the templates of its mode, so rendering it never fails, and the handler is the
text that the templates become in a row.
-/

namespace ActionHandler.Handler

open Text

variable {τ : Type} [Append τ] [Textual τ]

namespace Bindings

/-- Whether there is no text for a name. -/
def lacks (bindings : Bindings τ) (name : String) : Bool :=
  (bindings.lookup name).isNone

/-- The text for a name, which is empty where there is none. -/
def text (bindings : Bindings τ) (name : String) : τ :=
  (bindings.lookup name).getD (Textual.ofString "")

omit [Append τ] in
theorem text_congr {bindings other : Bindings τ} {name : String}
    (hsame : bindings.lookup name = other.lookup name) :
    bindings.text name = other.text name := by
  rw [text, text, hsame]

end Bindings

namespace Template

/-- The text that a template becomes when every name has a text. -/
def fill (text : String → τ) : Template → τ
  | [] => Textual.ofString ""
  | .text content :: rest => Textual.ofString content ++ fill text rest
  | .hole name :: rest => text name ++ fill text rest

/-- Templates in a row are filled one after the other. -/
@[simp] theorem fill_append [LawfulTextual τ] (text : String → τ) (first second : Template) :
    fill text (first ++ second) = fill text first ++ fill text second := by
  induction first with
  | nil => rw [List.nil_append, fill, LawfulTextual.empty_append]
  | cons piece rest ih =>
      cases piece with
      | text content => rw [List.cons_append, fill, fill, ih, LawfulTextual.append_assoc]
      | hole name => rw [List.cons_append, fill, fill, ih, LawfulTextual.append_assoc]

theorem fill_hole (text : String → String) (name : String) :
    fill text [.hole name] = text name := by
  rw [fill, fill, ofString_string, String.append_empty]

/-- What a template becomes depends on the texts for its holes alone. -/
theorem fill_congr {text other : String → τ} {template : Template}
    (hholes : ∀ name ∈ template.holes, text name = other name) :
    template.fill text = template.fill other := by
  induction template with
  | nil => rfl
  | cons piece rest ih =>
      cases piece with
      | text content => rw [fill, fill, ih hholes]
      | hole name =>
          have hrest : ∀ next ∈ holes rest, text next = other next :=
            fun next hmem => hholes next (by simp [holes, hmem])
          rw [fill, fill, ih hrest, hholes name (by simp [holes])]

/-- The pieces of a template in front of its first hole with a given name. -/
def beforeHole (name : String) (template : Template) : Template :=
  template.takeWhile (· ≠ .hole name)

/-- The pieces of a template behind its first hole with a given name. -/
def behindHole (name : String) (template : Template) : Template :=
  (template.dropWhile (· ≠ .hole name)).tail

/-- A template is filled around any of its holes. -/
theorem fill_around_hole {name : String} {template : Template} (hname : name ∈ template.holes)
    (text : String → String) :
    template.fill text = (template.beforeHole name).fill text ++
      (text name ++ (template.behindHole name).fill text) := by
  induction template with
  | nil => cases hname
  | cons piece rest ih =>
      cases piece with
      | text content =>
          have hbefore : beforeHole name (.text content :: rest) =
              .text content :: beforeHole name rest := by simp [beforeHole]
          have hbehind : behindHole name (.text content :: rest) = behindHole name rest := by
            simp [behindHole]
          rw [hbefore, hbehind, fill, fill, ih hname, String.append_assoc]
      | hole other =>
          by_cases hother : other = name
          · subst hother
            have hbefore : beforeHole other (.hole other :: rest) = [] := by simp [beforeHole]
            have hbehind : behindHole other (.hole other :: rest) = rest := by simp [behindHole]
            rw [hbefore, hbehind, fill, fill, ofString_string, String.empty_append]
          · have hbefore : beforeHole name (.hole other :: rest) =
                .hole other :: beforeHole name rest := by simp [beforeHole, hother]
            have hbehind : behindHole name (.hole other :: rest) = behindHole name rest := by
              simp [behindHole, hother]
            have hrest : name ∈ holes rest := by
              simpa [holes, Ne.symm hother] using hname
            rw [hbefore, hbehind, fill, fill, ih hrest, String.append_assoc]

/-- Filling a template goes the same way for strings and for raw texts. -/
theorem fill_ofString (text : String → String) (template : Template) :
    template.fill (fun name => (text name : RawText)) = ↑(template.fill text) := by
  induction template with
  | nil => rfl
  | cons piece rest ih =>
      cases piece with
      | text content => rw [fill, fill, ih, RawText.ofString_append]; rfl
      | hole name => rw [fill, fill, ih, RawText.ofString_append]

/-- What is in the text for a hole is in the filled template. -/
theorem mem_fill {text : String → RawText} {template : Template} {name : String}
    (hname : name ∈ template.holes) {point : RawChar} (hpoint : point ∈ text name) :
    point ∈ template.fill text := by
  induction template with
  | nil => cases hname
  | cons piece rest ih =>
      cases piece with
      | text content => exact List.mem_append_right _ (ih hname)
      | hole other =>
          rcases List.mem_cons.mp hname with rfl | hrest
          · exact List.mem_append_left _ hpoint
          · exact List.mem_append_right _ (ih hrest)

theorem fill_of_holes_eq_nil {template : Template} (hholes : template.holes = [])
    (text other : String → String) : template.fill text = template.fill other := by
  apply fill_congr
  rw [hholes]
  simp

/-- A template is filled, unless one of its holes has no text. The first such hole decides the
fault. -/
theorem render_eq_match (bindings : Bindings τ) (template : Template) :
    template.render bindings =
      match template.holes.find? bindings.lacks with
      | some name => .error (.fault (.undefinedVariable name))
      | none => .ok (template.fill bindings.text) := by
  induction template with
  | nil => rfl
  | cons piece rest ih =>
      cases piece with
      | text content =>
          rw [render, Piece.render, ih, holes, fill, ok_bind]
          cases (holes rest).find? bindings.lacks <;> rfl
      | hole name =>
          cases hlookup : bindings.lookup name with
          | none =>
              have hlacks : bindings.lacks name = true := by simp [Bindings.lacks, hlookup]
              rw [render, Piece.render, hlookup, holes, List.find?_cons_of_pos hlacks]
              rfl
          | some content =>
              have hlacks : ¬ bindings.lacks name = true := by simp [Bindings.lacks, hlookup]
              have htext : bindings.text name = content := by simp [Bindings.text, hlookup]
              rw [render, Piece.render, hlookup, holes, List.find?_cons_of_neg hlacks, fill, htext,
                ok_bind, ih]
              cases (holes rest).find? bindings.lacks <;> rfl

end Template

/-- The fragment that its template becomes when every name has a text. -/
def FragmentTemplate.fill (text : String → τ) (fragment : FragmentTemplate) : Fragment τ :=
  ⟨fragment.name, fragment.template.fill text⟩

/-- Fragments are filled, unless one of the holes of their templates has no text. -/
theorem renderAll_eq_match (bindings : Bindings τ) (fragments : List FragmentTemplate) :
    renderAll bindings fragments =
      match (fragments.flatMap (·.template.holes)).find? bindings.lacks with
      | some name => .error (.fault (.undefinedVariable name))
      | none => .ok (fragments.map (·.fill bindings.text)) := by
  induction fragments with
  | nil => rfl
  | cons fragment rest ih =>
      rw [renderAll, FragmentTemplate.render, Template.render_eq_match, ih, List.flatMap_cons,
        List.find?_append]
      cases fragment.template.holes.find? bindings.lacks with
      | some name => rfl
      | none =>
          rw [Option.none_or]
          cases (rest.flatMap (·.template.holes)).find? bindings.lacks <;> rfl

/-- The template of a whole handler. -/
def handlerTemplate (isDerived : Bool) : Template :=
  (fragmentTemplates isDerived).flatMap (·.template)

theorem assemble_fill [LawfulTextual τ] (text : String → τ) (isDerived : Bool) :
    assemble ((fragmentTemplates isDerived).map (·.fill text)) =
      (handlerTemplate isDerived).fill text := by
  unfold assemble handlerTemplate
  induction fragmentTemplates isDerived with
  | nil => rfl
  | cons fragment rest ih =>
      rw [List.map_cons, List.map_cons, joined_cons, ih, List.flatMap_cons,
        Template.fill_append]
      rfl

namespace Context

/-- The text that a context has for a name. -/
def text (context : Context τ) (name : String) : τ :=
  (context.bindings.lookup name).getD (Textual.ofString "")

/-- The handler of a context. -/
def handler (context : Context τ) : τ :=
  (handlerTemplate context.relay.isSome).fill context.text

omit [Append τ] in
/-- A context has a text for every hole of the templates of its mode. -/
theorem lookup_bindings (context : Context τ) :
    ∀ fragment ∈ fragmentTemplates context.relay.isSome, ∀ name ∈ fragment.template.holes,
      context.bindings.lookup name = some (context.text name) := by
  intro fragment hfragment name hname
  have hbound : (context.bindings.lookup name).isSome := by
    have hholes : name ∈ (fragmentTemplates context.relay.isSome).flatMap (·.template.holes) :=
      List.mem_flatMap.mpr ⟨fragment, hfragment, hname⟩
    cases hrelay : context.relay with
    | none =>
        rw [hrelay] at hholes
        have hnames : name ∈ ["destructure", "output_literal"] := hholes
        simp only [List.mem_cons, List.not_mem_nil, or_false] at hnames
        rcases hnames with rfl | rfl <;> rfl
    | some relay =>
        rw [hrelay] at hholes
        have hnames : name ∈ ["query_name", "operation_source", "execute_name",
            "endpoint_env_var", "query_name", "destructure", "execute_name",
            "variables_literal", "root_field"] := hholes
        simp only [List.mem_cons, List.not_mem_nil, or_false] at hnames
        rw [bindings, hrelay]
        rcases hnames with rfl | rfl | rfl | rfl | rfl | rfl | rfl | rfl | rfl <;> rfl
  obtain ⟨content, hcontent⟩ := Option.isSome_iff_exists.mp hbound
  rw [text, hcontent]
  rfl

/-- Rendering a context never fails. -/
theorem renderFragments_toRenderContext (context : Context τ) :
    renderFragments context.toRenderContext =
      .ok ((fragmentTemplates context.relay.isSome).map (·.fill context.text)) := by
  have hfull : ((fragmentTemplates context.relay.isSome).flatMap (·.template.holes)).find?
      context.bindings.lacks = none := by
    apply List.find?_eq_none.mpr
    intro name hname
    obtain ⟨fragment, hfragment, hhole⟩ := List.mem_flatMap.mp hname
    simp [Bindings.lacks, context.lookup_bindings fragment hfragment name hhole]
  have hrender := renderAll_eq_match context.bindings (fragmentTemplates context.relay.isSome)
  rw [hfull] at hrender
  exact hrender

/-- The fragments of a handler, put together, are the handler. -/
theorem assemble_fragments [LawfulTextual τ] (context : Context τ) :
    assemble ((fragmentTemplates context.relay.isSome).map (·.fill context.text)) =
      context.handler :=
  assemble_fill context.text context.relay.isSome

theorem lookup_map {α β : Type} (function : α → β) (texts : List (String × α)) (name : String) :
    (texts.map fun text => (text.1, function text.2)).lookup name =
      (texts.lookup name).map function := by
  induction texts with
  | nil => rfl
  | cons first rest ih =>
      rw [List.map_cons, List.lookup_cons, List.lookup_cons, ih]
      cases name == first.1 <;> rfl

/-- A context whose raw texts are strings has the handler of the context with these strings. -/
theorem handler_ofString {raw : Context RawText} {context : Context}
    (hrelay : raw.relay.isSome = context.relay.isSome)
    (hbindings : raw.bindings = context.bindings.map fun text => (text.1, (text.2 : RawText))) :
    raw.handler = context.handler := by
  have htext : raw.text = fun name => (context.text name : RawText) := by
    funext name
    rw [text, text, hbindings, lookup_map]
    cases context.bindings.lookup name <;> rfl
  rw [handler, handler, hrelay, htext, Template.fill_ofString]

end Context

end ActionHandler.Handler
