import ActionHandler.Proofs.FirstMatch
import ActionHandler.Proofs.Handler.Rendering
import ActionHandler.Proofs.Result
import ActionHandler.Proofs.Text.Delimited

/-! # Rendering as substitution

Rendering puts the texts of a context into the holes of the templates of its mode, all at once and
as they are: a text is not read again, whatever it looks like. Texts that no hole asks for do not
matter. What is missing is missed in the order in which it is asked for: first the mode, and then
the text for the first hole that has none.
-/

namespace ActionHandler.Handler

namespace Template

theorem mem_holes_iff {name : String} {template : Template} :
    name ∈ template.holes ↔ .hole name ∈ template := by
  induction template with
  | nil => simp [holes]
  | cons piece rest ih => cases piece <;> simp [holes, ih]

/-- The parts of a template between its holes with a given name. -/
def partsAround (name : String) (template : Template) : List Template :=
  template.splitOn (Piece.hole name)

/-- A template is its parts around a hole, with the hole between them. -/
theorem intercalate_partsAround (name : String) (template : Template) :
    [.hole name].intercalate (template.partsAround name) = template :=
  List.intercalate_splitOn (Piece.hole name)

theorem not_mem_holes_of_mem_partsAround {name : String} {template part : Template}
    (hpart : part ∈ template.partsAround name) : name ∉ part.holes := by
  rw [mem_holes_iff]
  unfold partsAround at hpart
  exact Text.not_mem_of_mem_splitOn hpart

theorem fill_intercalate (text : String → String) (name : String) (parts : List Template) :
    fill text ([.hole name].intercalate parts) =
      String.intercalate (text name) (parts.map (fill text)) := by
  induction parts with
  | nil => rfl
  | cons part rest ih =>
      cases rest with
      | nil => simp
      | cons next others =>
          rw [List.intercalate_cons_cons, fill_append, fill_append, fill_hole, ih]
          simp only [List.map_cons, String.intercalate_cons_cons]

/-- A filled template has the text for a name between its parts around the holes with that name,
and this text does not matter to the parts. -/
theorem fill_eq_intercalate {text other : String → String} {name : String}
    (hsame : ∀ hole, hole ≠ name → text hole = other hole) (template : Template) :
    template.fill text =
      String.intercalate (text name) ((template.partsAround name).map (fill other)) := by
  have hparts : (template.partsAround name).map (fill text) =
      (template.partsAround name).map (fill other) := by
    apply List.map_congr_left
    intro part hpart
    apply fill_congr
    intro hole hhole
    apply hsame
    rintro rfl
    exact not_mem_holes_of_mem_partsAround hpart hhole
  rw [← hparts, ← fill_intercalate, intercalate_partsAround]

end Template

theorem FragmentTemplate.fill_congr {text other : String → String} {fragment : FragmentTemplate}
    (hholes : ∀ name ∈ fragment.template.holes, text name = other name) :
    fragment.fill text = fragment.fill other := by
  rw [fill, fill, Template.fill_congr hholes]

/-- The names that the templates of a mode have holes for, in order of fragment and then of
appearance. -/
def neededNames (isDerived : Bool) : List String :=
  (fragmentTemplates isDerived).flatMap (·.template.holes)

namespace RenderContext

/-- A context with another text for a name. -/
def set (context : RenderContext) (name value : String) : RenderContext :=
  { context with bindings := (name, value) :: context.bindings }

/-- How the rendering of a context ends. -/
inductive Renders (context : RenderContext) : Except Interruption (List Fragment) → Prop
  /-- It is not known which templates to render. -/
  | noMode (hmode : context.isDerived = none) :
      Renders context (.error (.fault (.missingKey "is_derived")))
  /-- Some hole has no text. The first one is reported. -/
  | undefined {isDerived : Bool} {name : String} (hmode : context.isDerived = some isDerived)
      (hfirst : IsFirst (context.bindings.lookup · = none) (neededNames isDerived) name) :
      Renders context (.error (.fault (.undefinedVariable name)))
  /-- Every hole becomes the text for its name. -/
  | filled {isDerived : Bool} (hmode : context.isDerived = some isDerived)
      (hbound : ∀ name ∈ neededNames isDerived, context.bindings.lookup name ≠ none) :
      Renders context (.ok ((fragmentTemplates isDerived).map (·.fill context.bindings.text)))

variable {context other : RenderContext} {isDerived : Bool} {name : String}

theorem renderFragments_of_mode (hmode : context.isDerived = some isDerived) :
    renderFragments context =
      match (neededNames isDerived).find? context.bindings.lacks with
      | some name => .error (.fault (.undefinedVariable name))
      | none => .ok ((fragmentTemplates isDerived).map (·.fill context.bindings.text)) := by
  rw [renderFragments, hmode, ask, ok_bind, renderAll_eq_match]
  rfl

theorem bindings_lacks_iff (context : RenderContext) (name : String) :
    context.bindings.lacks name = true ↔ context.bindings.lookup name = none :=
  Option.isNone_iff_eq_none

/-- Rendering ends as the first missing hole decides. -/
theorem renders_renderFragments (context : RenderContext) :
    context.Renders (renderFragments context) := by
  cases hmode : context.isDerived with
  | none =>
      rw [renderFragments, hmode]
      exact .noMode hmode
  | some isDerived =>
      rw [renderFragments_of_mode hmode]
      cases hfirst : (neededNames isDerived).find? context.bindings.lacks with
      | some name =>
          exact .undefined hmode
            ((find?_eq_some_iff_isFirst context.bindings_lacks_iff).mp hfirst)
      | none =>
          apply Renders.filled hmode
          intro name hname
          rw [Ne, ← bindings_lacks_iff]
          exact List.find?_eq_none.mp hfirst name hname

/-- Rendering ends in no other way than it does. -/
theorem Renders.renderFragments_eq {outcome : Except Interruption (List Fragment)}
    (hrenders : context.Renders outcome) : renderFragments context = outcome := by
  cases hrenders with
  | noMode hmode =>
      rw [renderFragments, hmode]
      rfl
  | undefined hmode hfirst =>
      rw [renderFragments_of_mode hmode,
        (find?_eq_some_iff_isFirst context.bindings_lacks_iff).mpr hfirst]
  | @filled isDerived hmode hbound =>
      have hnone : (neededNames isDerived).find? context.bindings.lacks = none := by
        apply List.find?_eq_none.mpr
        intro name hname
        rw [bindings_lacks_iff]
        exact hbound name hname
      rw [renderFragments_of_mode hmode, hnone]

/-- Only the mode and the texts for the holes of its templates matter. -/
theorem renderFragments_congr (hmodes : context.isDerived = other.isDerived)
    (hsame : ∀ isDerived, context.isDerived = some isDerived → ∀ name ∈ neededNames isDerived,
      context.bindings.lookup name = other.bindings.lookup name) :
    renderFragments context = renderFragments other := by
  symm
  apply Renders.renderFragments_eq
  have hrenders := context.renders_renderFragments
  generalize renderFragments context = outcome at hrenders ⊢
  cases hrenders with
  | noMode hmode => exact .noMode (hmodes.symm.trans hmode)
  | @undefined isDerived name hmode hfirst =>
      refine .undefined (hmodes.symm.trans hmode) (hfirst.congr fun name hname => ?_)
      rw [hsame isDerived hmode name hname]
  | @filled isDerived hmode hbound =>
      have hfill : (fragmentTemplates isDerived).map (·.fill context.bindings.text) =
          (fragmentTemplates isDerived).map (·.fill other.bindings.text) := by
        apply List.map_congr_left
        intro fragment hfragment
        apply FragmentTemplate.fill_congr
        intro name hname
        apply Bindings.text_congr
        exact hsame isDerived hmode name (List.mem_flatMap.mpr ⟨fragment, hfragment, hname⟩)
      rw [hfill]
      apply Renders.filled (hmodes.symm.trans hmode)
      intro name hname
      rw [← hsame isDerived hmode name hname]
      exact hbound name hname

theorem lookup_set_of_ne {hole : String} (hne : hole ≠ name) (context : RenderContext)
    (value : String) :
    (context.set name value).bindings.lookup hole = context.bindings.lookup hole := by
  have hmiss : (hole == name) = false := by simpa using hne
  rw [set, List.lookup_cons, hmiss]

theorem lookup_set_self (context : RenderContext) (name value : String) :
    (context.set name value).bindings.lookup name = some value :=
  List.lookup_cons_self

/-- With every other hole filled, the fragments have the text for a name in the holes with that
name and nowhere else. -/
theorem renderFragments_set (hmode : context.isDerived = some isDerived)
    (hbound : ∀ hole ∈ neededNames isDerived, hole ≠ name →
      context.bindings.lookup hole ≠ none) (value : String) :
    renderFragments (context.set name value) =
      .ok ((fragmentTemplates isDerived).map fun fragment =>
        ⟨fragment.name, String.intercalate value
          ((fragment.template.partsAround name).map (·.fill context.bindings.text))⟩) := by
  have hmode' : (context.set name value).isDerived = some isDerived := hmode
  have hfilled : (context.set name value).Renders (.ok ((fragmentTemplates isDerived).map
      (·.fill (context.set name value).bindings.text))) := by
    apply Renders.filled hmode'
    intro hole hhole
    by_cases hname : hole = name
    · rw [hname, lookup_set_self]
      exact Option.some_ne_none value
    · rw [lookup_set_of_ne hname]
      exact hbound hole hhole hname
  have hvalue : (context.set name value).bindings.text name = value := by
    rw [Bindings.text, lookup_set_self, Option.getD_some]
  have hothers : ∀ hole, hole ≠ name →
      (context.set name value).bindings.text hole = context.bindings.text hole :=
    fun hole hne => Bindings.text_congr (lookup_set_of_ne hne context value)
  rw [hfilled.renderFragments_eq]
  congr 1
  apply List.map_congr_left
  intro fragment _
  rw [FragmentTemplate.fill, Template.fill_eq_intercalate hothers, hvalue]

/-- Rendering puts the texts of a context into the holes of the templates of its mode, all at once
and as they are. It fails only where the mode or the text for a hole is missing, at the first one
that is. No other text matters, and another text for a name is seen between the parts around the
holes with that name, and only there. -/
theorem rendering_substitutes :
    (∀ (context : RenderContext) outcome,
      renderFragments context = outcome ↔ context.Renders outcome) ∧
    (∀ context other : RenderContext, context.isDerived = other.isDerived →
      (∀ isDerived, context.isDerived = some isDerived → ∀ name ∈ neededNames isDerived,
        context.bindings.lookup name = other.bindings.lookup name) →
      renderFragments context = renderFragments other) ∧
    (∀ (context : RenderContext) isDerived name, context.isDerived = some isDerived →
      (∀ hole ∈ neededNames isDerived, hole ≠ name → context.bindings.lookup hole ≠ none) →
      ∀ value, renderFragments (context.set name value) =
        .ok ((fragmentTemplates isDerived).map fun fragment =>
          ⟨fragment.name, String.intercalate value
            ((fragment.template.partsAround name).map (·.fill context.bindings.text))⟩)) ∧
    ∀ (template : Template) name,
      [.hole name].intercalate (template.partsAround name) = template ∧
        ∀ part ∈ template.partsAround name, name ∉ part.holes := by
  refine ⟨?_, ?_, ?_, ?_⟩
  · intro context outcome
    refine ⟨?_, Renders.renderFragments_eq⟩
    rintro rfl
    exact context.renders_renderFragments
  · exact fun context other => renderFragments_congr
  · exact fun context isDerived name => renderFragments_set
  · exact fun template name => ⟨template.intercalate_partsAround name,
      fun part => Template.not_mem_holes_of_mem_partsAround⟩

/-- A text that looks like a hole stays as it is, and one that only relaying handlers need does not
matter to a plain one. -/
theorem rendering_of_template_marks :
    renderFragments ((⟨some false, [("root_field", "r"), ("output_literal", "\x7b%\r")]⟩ :
        RenderContext).set "destructure" "\x7b\x7b root_field \x7d\x7d") =
      .ok [
        ⟨"handler_beginning", "\nmodule.exports = async function (context, req) \x7b\n" ++
          "  const \x7b\x7b root_field \x7d\x7d = req.body.input;\n"⟩,
        businessLogic.fill (fun _ => ""),
        errorSuccessResponse.fill (fun _ => "\x7b%\r")] := by
  have hextra : renderFragments ((⟨some false, [("root_field", "r"),
      ("output_literal", "\x7b%\r")]⟩ : RenderContext).set "destructure"
        "\x7b\x7b root_field \x7d\x7d") =
      renderFragments ((⟨some false, [("output_literal", "\x7b%\r")]⟩ : RenderContext).set
        "destructure" "\x7b\x7b root_field \x7d\x7d") := by
    apply rendering_substitutes.2.1 _ _ rfl
    intro isDerived hmode
    obtain rfl : false = isDerived := Option.some.inj hmode
    decide
  rw [hextra, rendering_substitutes.2.2.1 _ false "destructure" rfl (by decide)]
  rfl

end RenderContext

end ActionHandler.Handler
