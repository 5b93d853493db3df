import ActionHandler.Proofs.Handler.RelayReading
import ActionHandler.Proofs.Handler.TemplateDeclarations

/-! # Names that a handler declares

The names that a handler declares at the outermost level of its module, and those in the scope of
its function, as JavaScript reads them. The function is looked for from the end, since anything may
stand in place of the endpoint variable in front of it.
-/

namespace ActionHandler.Handler

open Graphql Javascript Text

/-- How the line begins on which the function of a handler begins. -/
def functionStart : String :=
  "module.exports = async function"

/-- The names in the scope of the function of a handler. -/
def scopeNames? (content : String) : Option (List String) := do
  let function ← behindLastLine? functionStart.toList true content.toList
  functionNames? function

/-- The kinds of texts that a context has for the holes of the templates. -/
def fillings (name : String) : Filling :=
  if name = "query_name" ∨ name = "execute_name" then .word
  else if name = "endpoint_env_var" ∨ name = "root_field" then .property
  else if name = "destructure" then .pattern
  else if name = "operation_source" then .escaped
  else .value

/-- The names that the holes of the templates can declare. -/
def holeNames (action : String) (arguments : List String) (name : String) : List String :=
  if name = "query_name" then [queryConstantName action]
  else if name = "execute_name" then [executeFunctionName action]
  else if name = "destructure" then arguments
  else []

/-- The function of a handler behind the words that announce it. -/
def functionTemplate (isDerived : Bool) : Template :=
  .text " (context, req) \x7b\n" :: (handlerBeginning.template.tail ++
    if isDerived then runExecute.template
    else businessLogic.template ++ errorSuccessResponse.template)

/-- What a relaying handler declares at the outermost level. -/
theorem readPlaces_handlerTemplate :
    readPlaces fillings ⟨.code, .code 0 false⟩ (handlerTemplate true).places =
      some (⟨.code, .code 0 false⟩,
        [.own "fetch", .hole "query_name", .hole "execute_name"]) := by
  have hpieces : handlerTemplate true =
      fetchExecute.template ++ (handlerBeginning.template ++ runExecute.template) := rfl
  rw [hpieces]
  simp only [fetchExecute, handlerBeginning, runExecute, List.cons_append, List.nil_append,
    Template.places_cons_lines, Template.places_cons_text, Template.places_cons_hole,
    List.flatMap_cons, List.flatMap_nil, String.reduceToList]
  decide +kernel

/-- What the function of a relaying handler declares, and that none of its lines looks like the
beginning of a function. -/
theorem readPlaces_functionTemplate_relay :
    readPlaces fillings ⟨.code, .parameters⟩ (functionTemplate true).places =
      some (⟨.code, .closed⟩,
        [.own "context", .own "req", .hole "destructure", .own "data", .own "errors"]) ∧
    Template.mayStartLine 'm' false (functionTemplate true).places = false := by
  simp only [functionTemplate, if_true, handlerBeginning, runExecute, List.tail_cons,
    List.cons_append, List.nil_append, Template.places_cons_lines, Template.places_cons_text,
    Template.places_cons_hole, List.flatMap_cons, List.flatMap_nil, String.reduceToList]
  decide +kernel

/-- What the function of a plain handler declares, and that none of its lines looks like the
beginning of a function. -/
theorem readPlaces_functionTemplate_plain :
    readPlaces fillings ⟨.code, .parameters⟩ (functionTemplate false).places =
      some (⟨.code, .closed⟩, [.own "context", .own "req", .hole "destructure"]) ∧
    Template.mayStartLine 'm' false (functionTemplate false).places = false := by
  simp only [functionTemplate, if_neg Bool.false_ne_true, handlerBeginning, businessLogic,
    errorSuccessResponse, List.tail_cons, List.cons_append, List.nil_append,
    Template.places_cons_lines, Template.places_cons_text, Template.places_cons_hole,
    List.flatMap_cons, List.flatMap_nil, String.reduceToList]
  decide +kernel

/-- A handler ends with its function. -/
theorem toList_handler (context : Context) : ∃ front,
    context.handler.toList = front ++ '\n' :: (functionStart.toList ++
      ((functionTemplate context.relay.isSome).fill context.text).toList) := by
  have hopen : unlines ["", "module.exports = async function (context, req) \x7b"] =
      "\n" ++ (functionStart ++ " (context, req) \x7b\n") := by decide
  have hbeginning : ∀ rest : Template, (handlerBeginning.template ++ rest).fill context.text =
      "\n" ++ (functionStart ++
        Template.fill context.text (.text " (context, req) \x7b\n" ::
          (handlerBeginning.template.tail ++ rest))) := by
    intro rest
    simp only [handlerBeginning, List.tail_cons, List.cons_append, Template.fill, Piece.lines,
      Text.ofString_string, hopen, String.append_assoc]
  cases hrelay : context.relay.isSome with
  | false =>
      have hpieces : handlerTemplate false = handlerBeginning.template ++
          (businessLogic.template ++ errorSuccessResponse.template) := rfl
      refine ⟨[], ?_⟩
      rw [Context.handler, hrelay, hpieces, hbeginning]
      simp [functionTemplate]
  | true =>
      have hpieces : handlerTemplate true =
          fetchExecute.template ++ (handlerBeginning.template ++ runExecute.template) := rfl
      refine ⟨(fetchExecute.template.fill context.text).toList, ?_⟩
      rw [Context.handler, hrelay, hpieces, Template.fill_append, hbeginning]
      simp [functionTemplate]

/-- The names in the scope of the function of a handler, if what fills its holes has the kinds
that are expected. -/
theorem scopeNames?_handler {context : Context} {isDerived : Bool}
    (hrelay : context.relay.isSome = isDerived) {names : String → List String}
    {declared : List Declared}
    (hread : readPlaces fillings ⟨.code, .parameters⟩ (functionTemplate isDerived).places =
        some (⟨.code, .closed⟩, declared) ∧
      Template.mayStartLine 'm' false (functionTemplate isDerived).places = false)
    (hfills : ∀ name ∈ (functionTemplate isDerived).holes,
      Fills (fillings name) (context.text name) (names name))
    (hlines : ∀ name ∈ (functionTemplate isDerived).holes,
      GoesOn 'm' (context.text name).toList) :
    scopeNames? context.handler = some (declared.flatMap (Declared.fill names)) := by
  subst hrelay
  -- Nothing is known of the text in front, so the function has to be the last line that looks
  -- like one.
  obtain ⟨front, hhandler⟩ := toList_handler context
  obtain ⟨hread, hstarts⟩ := hread
  have hplaces := Template.not_mem_lineStarts_fill hstarts
    fun name hname => hlines name (Template.mem_holes_of_mem_places hname)
  have hleads := leads_of_readPlaces hread
    fun name hname => hfills name (Template.mem_holes_of_mem_places hname)
  rw [← Template.toList_fill] at hplaces hleads
  have hbehind : behindLastLine? functionStart.toList true context.handler.toList =
      some ((functionTemplate context.relay.isSome).fill context.text).toList := by
    have hstart : functionStart.toList = 'm' :: "odule.exports = async function".toList := by
      decide
    rw [hhandler, hstart]
    exact behindLastLine?_append (by decide) hplaces true front
  have hend : Leads ⟨.code, .closed⟩ ['\n'] [] ⟨.code, .closed⟩ := by decide
  have hfunction := hleads.append hend
  rw [List.append_nil, Leads] at hfunction
  rw [scopeNames?, hbehind, Option.bind_eq_bind, Option.bind_some, functionNames?, hfunction]

/-- Each line of the body of a response begins with blanks. -/
theorem goesOn_outputLiteral {fields : List String} (hfields : ∀ field ∈ fields, IsName field) :
    GoesOn 'm' (outputLiteral fields).toList := by
  by_cases hnil : fields = []
  · rw [hnil]
    exact .of_not_mem (by decide)
  · have hmembers : ∀ word ∈ (members fields).map String.toList, GoesOn 'm' word := by
      intro word hword
      obtain ⟨member, hmember, rfl⟩ := List.mem_map.mp hword
      obtain ⟨field, hfield, rfl⟩ := List.mem_map.mp hmember
      have hname : '\n' ∉ field.toList := (hfields field hfield).not_mem (by decide)
      exact .of_not_mem (by simp [hname])
    rw [toList_outputLiteral hnil]
    exact (GoesOn.append ⟨by decide, by decide⟩ (.intercalate ⟨by decide, by decide⟩ hmembers)).append
      ⟨by decide, by decide⟩

/-- A derived name announces no declaration. -/
theorem fills_word {name : String} {first : Char} (hname : IsName name)
    (hfirst : name.toList.head? = some first)
    (hother : (Stand.declarators ++ Stand.binders).all (·.toList.head? != some first) = true) :
    Fills .word name [name] := by
  have hnot : name ∉ Stand.declarators ++ Stand.binders := by
    intro hmem
    have hdiffers := List.all_eq_true.mp hother name hmem
    simp [hfirst] at hdiffers
  rw [List.mem_append, not_or] at hnot
  exact .word (isIdentifier_of_isName hname) hnot.1 hnot.2

section

variable {facts : Action} {derive : DeriveOperation} (hfacts : facts.WellNamed)

include hfacts

theorem fills_plain : ∀ name ∈ (functionTemplate false).holes,
    Fills (fillings name) ((Context.plain facts).text name)
      (holeNames facts.name facts.arguments name) := by
  have hholes : (functionTemplate false).holes = ["destructure", "output_literal"] := rfl
  intro name hname
  simp only [hholes, List.mem_cons, List.not_mem_nil, or_false] at hname
  rcases hname with rfl | rfl
  · exact .pattern hfacts.arguments
  · exact .value (Leads.used_body hfacts.outputFields)

theorem fills_relaying (hderive : derive.WellNamed) (source endpointVariable : String) :
    ∀ name ∈ ["query_name", "execute_name", "destructure", "variables_literal", "root_field",
        "operation_source"],
      Fills (fillings name)
        ((Context.relaying facts derive source endpointVariable).text name)
        (holeNames facts.name facts.arguments name) := by
  intro name hname
  simp only [List.mem_cons, List.not_mem_nil, or_false] at hname
  rcases hname with rfl | rfl | rfl | rfl | rfl | rfl
  · exact fills_word (isName_queryConstantName hfacts.name) (head?_queryConstantName _) (by decide)
  · exact fills_word (isName_executeFunctionName hfacts.name) (head?_executeFunctionName _)
      (by decide)
  · exact .pattern hfacts.arguments
  · exact .value (Leads.used_variables hderive.variableNames)
  · exact .property (isIdentifier_of_isName hderive.rootField)
  · exact .escaped source

/-- The scope of a plain handler. -/
theorem scopeNames?_plain :
    scopeNames? (Context.plain facts).handler =
      some (["context", "req"] ++ facts.arguments) := by
  have hlines : ∀ name ∈ (functionTemplate false).holes,
      GoesOn 'm' ((Context.plain facts).text name).toList := by
    have hholes : (functionTemplate false).holes = ["destructure", "output_literal"] := rfl
    intro name hname
    simp only [hholes, List.mem_cons, List.not_mem_nil, or_false] at hname
    rcases hname with rfl | rfl
    · exact .of_not_mem (lineFeed_not_mem_destructurePattern hfacts.arguments)
    · exact goesOn_outputLiteral hfacts.outputFields
  have hscope := scopeNames?_handler (show (Context.plain facts).relay.isSome = false from rfl)
    readPlaces_functionTemplate_plain (fills_plain hfacts) hlines
  simpa [Declared.fill, holeNames] using hscope

/-- The scope of a relaying handler. -/
theorem scopeNames?_relaying (hderive : derive.WellNamed) (source endpointVariable : String) :
    scopeNames? (Context.relaying facts derive source endpointVariable).handler =
      some (["context", "req"] ++ facts.arguments ++ ["data", "errors"]) := by
  have hholes : (functionTemplate true).holes =
      ["destructure", "execute_name", "variables_literal", "root_field"] := rfl
  have hfills : ∀ name ∈ (functionTemplate true).holes, Fills (fillings name)
      ((Context.relaying facts derive source endpointVariable).text name)
      (holeNames facts.name facts.arguments name) := by
    have hmem : ∀ name ∈ ["destructure", "execute_name", "variables_literal", "root_field"],
        name ∈ ["query_name", "execute_name", "destructure", "variables_literal", "root_field",
          "operation_source"] := by decide
    intro name hname
    exact fills_relaying hfacts hderive source endpointVariable name (hmem name (hholes ▸ hname))
  have hlines : ∀ name ∈ (functionTemplate true).holes, GoesOn 'm'
      ((Context.relaying facts derive source endpointVariable).text name).toList := by
    have hbehind : behindEndpoint.holes =
        ["query_name", "destructure", "execute_name", "variables_literal", "root_field"] := rfl
    intro name hname
    apply GoesOn.of_not_mem
    apply lineFeed_not_mem_behindEndpoint hfacts hderive
    rw [hholes] at hname
    rw [hbehind]
    exact List.mem_cons_of_mem "query_name" hname
  have hrelay : (Context.relaying facts derive source endpointVariable).relay.isSome = true := rfl
  have hscope := scopeNames?_handler hrelay readPlaces_functionTemplate_relay hfills hlines
  simpa [Declared.fill, holeNames] using hscope

/-- The names at the outermost level of a relaying handler. -/
theorem leads_relaying (hderive : derive.WellNamed) (source : String) {endpointVariable : String}
    (hendpoint : isIdentifier endpointVariable.toList = true) :
    Leads ⟨.code, .code 0 false⟩
      (Context.relaying facts derive source endpointVariable).handler.toList
      ["fetch", queryConstantName facts.name, executeFunctionName facts.name]
      ⟨.code, .code 0 false⟩ := by
  have hholes : (handlerTemplate true).holes = ["query_name", "operation_source", "execute_name",
      "endpoint_env_var", "query_name", "destructure", "execute_name", "variables_literal",
      "root_field"] := rfl
  have hfills : ∀ name ∈ (handlerTemplate true).holes, Fills (fillings name)
      ((Context.relaying facts derive source endpointVariable).text name)
      (holeNames facts.name facts.arguments name) := by
    intro name hname
    by_cases hother : name = "endpoint_env_var"
    · subst hother
      exact .property hendpoint
    · have hmem : ∀ name ∈ ["query_name", "operation_source", "execute_name",
          "endpoint_env_var", "query_name", "destructure", "execute_name", "variables_literal",
          "root_field"], name ≠ "endpoint_env_var" →
          name ∈ ["query_name", "execute_name", "destructure", "variables_literal", "root_field",
            "operation_source"] := by decide
      exact fills_relaying hfacts hderive source endpointVariable name
        (hmem name (hholes ▸ hname) hother)
  have hleads := leads_of_readPlaces readPlaces_handlerTemplate
    fun name hname => hfills name (Template.mem_holes_of_mem_places hname)
  rw [← Template.toList_fill] at hleads
  have hrelay : (Context.relaying facts derive source endpointVariable).relay.isSome = true := rfl
  rw [Context.handler, hrelay]
  simpa [Declared.fill, holeNames] using hleads

end

end ActionHandler.Handler
