import ActionHandler.Proofs.Generation.Names
import ActionHandler.Proofs.Handler.Literals
import ActionHandler.Proofs.Handler.OperationText

/-! # Unique reading of handlers

A handler tells what it is made of. A plain one tells the arguments of its action and the
fields of the response. A relaying one tells its action, the text of its operation, and its
arguments and endpoint variable. The text of the operation is read up to the backquote that
closes its literal; the endpoint variable may hold anything, also copies of the text around
it, so what stands behind it is read backwards, from the last brace of the object pattern.
-/

namespace ActionHandler.Handler

open Generation Graphql Javascript Text

theorem handlerTemplate_plain : handlerTemplate false =
    handlerBeginning.template ++ (businessLogic.template ++ errorSuccessResponse.template) :=
  rfl

theorem handlerTemplate_relay : handlerTemplate true =
    fetchExecute.template ++ (handlerBeginning.template ++ runExecute.template) :=
  rfl

/-- A template is the text in a hole between two fixed texts when the texts in its other
holes are fixed. -/
theorem Template.exists_fill_around_hole {ι : Type} [Inhabited ι] (text : ι → String → String)
    {template : Template} {name : String} (hname : name ∈ template.holes)
    (hbefore : ∀ other ∈ (template.beforeHole name).holes, ∀ i j, text i other = text j other)
    (hbehind : ∀ other ∈ (template.behindHole name).holes, ∀ i j, text i other = text j other) :
    ∃ front behind, ∀ i, template.fill (text i) = front ++ (text i name ++ behind) := by
  refine ⟨(template.beforeHole name).fill (text default),
    (template.behindHole name).fill (text default), ?_⟩
  intro i
  rw [fill_around_hole hname, fill_congr fun other hother => hbefore other hother i default,
    fill_congr fun other hother => hbehind other hother i default]

/-- A template with one hole is the text in it between two fixed texts. -/
theorem Template.exists_fill_of_hole {template : Template} {name : String}
    (hname : name ∈ template.holes) (hbefore : (template.beforeHole name).holes = [])
    (hbehind : (template.behindHole name).holes = []) :
    ∃ front behind, ∀ text : String → String,
      template.fill text = front ++ (text name ++ behind) := by
  apply exists_fill_around_hole (fun text => text) hname
  · simp [hbefore]
  · simp [hbehind]

theorem exists_fill_handlerBeginning :
    ∃ front behind, ∀ text : String → String, handlerBeginning.template.fill text =
      front ++ (text "destructure" ++ behind) :=
  Template.exists_fill_of_hole (by decide) (by decide) (by decide)

theorem exists_fill_errorSuccessResponse :
    ∃ front behind, ∀ text : String → String, errorSuccessResponse.template.fill text =
      front ++ (text "output_literal" ++ behind) :=
  Template.exists_fill_of_hole (by decide) (by decide) (by decide)

theorem exists_fetchBehindOperation_eq (action : String) :
    ∃ front behind, ∀ endpointVariable, fetchBehindOperation action endpointVariable =
      front ++ (endpointVariable ++ behind) := by
  have hhole : "endpoint_env_var" ∈
      (fetchExecute.template.behindHole "operation_source").holes := by decide
  have hbefore : ((fetchExecute.template.behindHole "operation_source").beforeHole
      "endpoint_env_var").holes = ["execute_name"] := by decide
  have hbehind : ((fetchExecute.template.behindHole "operation_source").behindHole
      "endpoint_env_var").holes = ["query_name"] := by decide
  apply Template.exists_fill_around_hole (fetchTexts action) hhole
  · simp [hbefore, fetchTexts]
  · simp [hbehind, fetchTexts]

/-- A plain handler is its object pattern and the body of its response among fixed texts. -/
theorem exists_handler_plain :
    ∃ front middle behind, ∀ facts, (Context.plain facts).handler =
      front ++ (destructurePattern facts.arguments ++
        (middle ++ (outputLiteral facts.outputFields ++ behind))) := by
  obtain ⟨front, middle, hbeginning⟩ := exists_fill_handlerBeginning
  obtain ⟨middle', behind, hresponse⟩ := exists_fill_errorSuccessResponse
  refine ⟨front, middle ++ (businessLogic.template.fill (fun _ => "") ++ middle'), behind, ?_⟩
  intro facts
  have hlogic : businessLogic.template.fill (Context.plain facts).text =
      businessLogic.template.fill fun _ => "" := Template.fill_of_holes_eq_nil (by decide) _ _
  have hpattern : (Context.plain facts).text "destructure" =
      destructurePattern facts.arguments := rfl
  have hbody : (Context.plain facts).text "output_literal" =
      outputLiteral facts.outputFields := rfl
  have hhandler : (Context.plain facts).handler =
      (handlerTemplate false).fill (Context.plain facts).text := rfl
  rw [hhandler, handlerTemplate_plain, Template.fill_append, Template.fill_append, hbeginning,
    hresponse, hlogic, hpattern, hbody]
  simp only [String.append_assoc]

/-- A relaying handler is its operation, the endpoint variable and its object pattern among
texts that depend on the name of the action and on what the operation says alone. -/
theorem exists_handler_relaying (action : String) (derive : DeriveOperation) :
    ∃ front behind, ∀ (facts : Action) (source endpointVariable : String), facts.name = action →
      (Context.relaying facts derive source endpointVariable).handler =
        operationPreamble action ++ "\x60\n" ++ escapeTemplateLiteral source ++
          (fetchBehindOperation action endpointVariable ++
            (front ++ (destructurePattern facts.arguments ++ behind))) := by
  obtain ⟨front, behind, hbeginning⟩ := exists_fill_handlerBeginning
  refine ⟨front, behind ++ runExecute.template.fill
    (Context.relaying ⟨action, [], "", []⟩ derive "" "").text, ?_⟩
  rintro facts source endpointVariable rfl
  have hholes : runExecute.template.holes =
      ["execute_name", "variables_literal", "root_field"] := by decide
  have hrun : runExecute.template.fill
      (Context.relaying facts derive source endpointVariable).text =
        runExecute.template.fill (Context.relaying ⟨facts.name, [], "", []⟩ derive "" "").text := by
    apply Template.fill_congr
    intro name hname
    rw [hholes] at hname
    simp only [List.mem_cons, List.not_mem_nil, or_false] at hname
    rcases hname with rfl | rfl | rfl <;> rfl
  have hpattern : (Context.relaying facts derive source endpointVariable).text "destructure" =
      destructurePattern facts.arguments := rfl
  have hfetch : fetchExecute.template.fill
      (Context.relaying facts derive source endpointVariable).text =
        operationPreamble facts.name ++ "\x60\n" ++ escapeTemplateLiteral source ++
          fetchBehindOperation facts.name endpointVariable :=
    fill_fetchExecute rfl rfl rfl rfl
  have hhandler : (Context.relaying facts derive source endpointVariable).handler =
      (handlerTemplate true).fill
        (Context.relaying facts derive source endpointVariable).text := rfl
  rw [hhandler, handlerTemplate_relay, Template.fill_append, Template.fill_append, hbeginning,
    hfetch, hrun, hpattern]
  simp only [String.append_assoc]

/-- The preamble tells its action: no name has a space in it. -/
theorem operationPreamble_append_inj {action action' : String} {rest rest' : List Char}
    (hname : IsName action) (hname' : IsName action')
    (heq : (operationPreamble action).toList ++ rest =
      (operationPreamble action').toList ++ rest') : action = action' ∧ rest = rest' := by
  have htoList : ∀ action, (operationPreamble action).toList =
      (unlines ["", "const fetch = require('node-fetch');", ""] ++ "const " ++ "HASURA_").toList ++
        (action.toList ++ ' ' :: "= ".toList) := by
    intro action
    simp [operationPreamble, queryConstantName]
  simp only [htoList, List.append_assoc, List.cons_append] at heq
  have hbehind := List.append_cancel_left heq
  obtain ⟨haction, hrest⟩ := append_mark_inj (hname.not_mem (by decide))
    (hname'.not_mem (by decide)) hbehind
  exact ⟨String.toList_inj.mp haction, List.append_cancel_left hrest⟩

/-- The operation in a handler is read up to the backquote that closes its literal. -/
theorem escapeTemplateLiteral_append_inj {source source' : String} {rest rest' : List Char}
    (heq : '\n' :: ((escapeTemplateLiteral source).toList ++ '\n' :: '\x60' :: rest) =
      '\n' :: ((escapeTemplateLiteral source').toList ++ '\n' :: '\x60' :: rest')) :
    source = source' ∧ rest = rest' := by
  have hscan := congrArg (scanFrom false) heq
  rw [toList_escapeTemplateLiteral, toList_escapeTemplateLiteral, ← List.cons_append,
    ← List.cons_append, scanFrom_literalOf, scanFrom_literalOf] at hscan
  obtain ⟨hliteral, hrest⟩ := Scanned.closed.inj hscan
  exact ⟨String.toList_inj.mp (literalOf_inj hliteral), hrest⟩

theorem handler_plain_eq_iff {facts facts' : Action} (hfacts : facts.WellNamed)
    (hfacts' : facts'.WellNamed) :
    (Context.plain facts).handler = (Context.plain facts').handler ↔
      facts.arguments = facts'.arguments ∧ facts.outputFields = facts'.outputFields := by
  obtain ⟨front, middle, behind, hhandler⟩ := exists_handler_plain
  constructor
  · intro heq
    have hlist := congrArg String.toList heq
    simp only [hhandler, String.toList_append] at hlist
    obtain ⟨harguments, hrest⟩ := destructurePattern_append_inj hfacts.arguments
      hfacts'.arguments (List.append_cancel_left hlist)
    have hbody := List.append_cancel_right (List.append_cancel_left hrest)
    exact ⟨harguments, outputLiteral_inj hfacts.outputFields hfacts'.outputFields
      (String.toList_inj.mp hbody)⟩
  · rintro ⟨harguments, hfields⟩
    rw [hhandler, hhandler, harguments, hfields]

theorem name_source_of_handler_eq {facts facts' : Action} {derive derive' : DeriveOperation}
    {source source' endpointVariable endpointVariable' : String}
    (hname : IsName facts.name) (hname' : IsName facts'.name)
    (heq : (Context.relaying facts derive source endpointVariable).handler =
      (Context.relaying facts' derive' source' endpointVariable').handler) :
    facts.name = facts'.name ∧ source = source' := by
  obtain ⟨front, behind, hhandler⟩ := exists_handler_relaying facts.name derive
  obtain ⟨front', behind', hhandler'⟩ := exists_handler_relaying facts'.name derive'
  obtain ⟨rest, hrest⟩ := exists_fetchBehindOperation facts.name endpointVariable
  obtain ⟨rest', hrest'⟩ := exists_fetchBehindOperation facts'.name endpointVariable'
  rw [hhandler facts source endpointVariable rfl,
    hhandler' facts' source' endpointVariable' rfl] at heq
  have hopen : "\x60\n".toList = ['\x60', '\n'] := rfl
  have hlist := congrArg String.toList heq
  simp only [String.toList_append, hopen, hrest, hrest', List.append_assoc, List.cons_append,
    List.nil_append] at hlist
  -- The name ends at the space behind it, and the operation at the backquote of the template.
  obtain ⟨haction, hliteral⟩ := operationPreamble_append_inj hname hname' hlist
  obtain ⟨hsource, _⟩ := escapeTemplateLiteral_append_inj (List.cons.inj hliteral).2
  exact ⟨haction, hsource⟩

theorem handler_relaying_eq_iff {facts facts' : Action} {derive derive' : DeriveOperation}
    {source source' endpointVariable endpointVariable' : String} (hfacts : facts.WellNamed)
    (hfacts' : facts'.WellNamed) (hderive : findOperation source = .ok derive)
    (hderive' : findOperation source' = .ok derive') :
    (Context.relaying facts derive source endpointVariable).handler =
        (Context.relaying facts' derive' source' endpointVariable').handler ↔
      facts.name = facts'.name ∧ facts.arguments = facts'.arguments ∧ source = source' ∧
        endpointVariable = endpointVariable' := by
  -- Once the name and the operation are known to be the same, so are the texts around the rest.
  have hrest : facts.name = facts'.name → source = source' → ∃ front middle behind,
      (Context.relaying facts derive source endpointVariable).handler = front ++
        (endpointVariable ++ (middle ++ (destructurePattern facts.arguments ++ behind))) ∧
      (Context.relaying facts' derive' source' endpointVariable').handler = front ++
        (endpointVariable' ++ (middle ++ (destructurePattern facts'.arguments ++ behind))) := by
    rintro hname rfl
    obtain rfl : derive = derive' := Except.ok.inj (hderive.symm.trans hderive')
    obtain ⟨middle, behind, hhandler⟩ := exists_handler_relaying facts.name derive
    obtain ⟨front, front', hfetch⟩ := exists_fetchBehindOperation_eq facts.name
    refine ⟨operationPreamble facts.name ++ "\x60\n" ++ escapeTemplateLiteral source ++ front,
      front' ++ middle, behind, ?_, ?_⟩
    · rw [hhandler facts source endpointVariable rfl, hfetch]
      simp only [String.append_assoc]
    · rw [hhandler facts' source endpointVariable' hname.symm, hfetch]
      simp only [String.append_assoc]
  constructor
  · intro heq
    obtain ⟨hname, hsource⟩ := name_source_of_handler_eq hfacts.name hfacts'.name heq
    obtain ⟨front, middle, behind, hfirst, hsecond⟩ := hrest hname hsource
    rw [hfirst, hsecond] at heq
    have hlist := congrArg String.toList heq
    simp only [String.toList_append] at hlist
    have hbehind := List.append_cancel_left hlist
    -- The endpoint variable may have braces in it, so the pattern is read from behind.
    simp only [← List.append_assoc] at hbehind
    obtain ⟨hendpoint, harguments⟩ := append_destructurePattern_inj hfacts.arguments
      hfacts'.arguments (List.append_cancel_right hbehind)
    exact ⟨hname, harguments, hsource, String.toList_inj.mp (List.append_cancel_right hendpoint)⟩
  · rintro ⟨hname, harguments, hsource, hendpoint⟩
    obtain ⟨front, middle, behind, hfirst, hsecond⟩ := hrest hname hsource
    rw [hfirst, hsecond, harguments, hendpoint]

/-- The second character tells a plain handler from one that relays an operation. -/
theorem handler_plain_ne_relaying (facts facts' : Action) (derive : DeriveOperation)
    (source endpointVariable : String) :
    (Context.plain facts).handler ≠
      (Context.relaying facts' derive source endpointVariable).handler := by
  intro heq
  have hplain : (Context.plain facts).handler.toList[1]? = some 'm' := by
    have hhandler : (Context.plain facts).handler =
        unlines ["", "module.exports = async function (context, req) \x7b"] ++
          Template.fill (Context.plain facts).text ((handlerTemplate false).drop 1) := rfl
    rw [hhandler, String.toList_append, List.getElem?_append_left (by decide)]
    decide
  have hrelaying : (Context.relaying facts' derive source endpointVariable).handler.toList[1]? =
      some 'c' := by
    obtain ⟨front, behind, hhandler⟩ := exists_handler_relaying facts'.name derive
    rw [hhandler facts' source endpointVariable rfl, operationPreamble]
    simp only [String.append_assoc]
    rw [String.toList_append, List.getElem?_append_left (by decide)]
    decide
  rw [heq, hrelaying] at hplain
  cases hplain

end ActionHandler.Handler

namespace ActionHandler.Generation

open Handler

/-- The file of a handler that was generated holds just the facts that the handler depends
on. A plain handler tells the arguments of its action and the fields of the response; one
that relays an operation tells its action, the arguments, the operation and the endpoint
variable; and every handler tells which of both it is. -/
theorem content_tells_facts {action action' schema schema' : String}
    {operation operation' : Option String} {endpointVariable endpointVariable' : String}
    {artifacts artifacts' : List Artifact}
    (hfirst : (generate action schema operation endpointVariable).result = .ok artifacts)
    (hsecond : (generate action' schema' operation' endpointVariable').result = .ok artifacts') :
    ∃ facts facts' content content',
      findAction action schema = .ok facts ∧ findAction action' schema' = .ok facts' ∧
      artifacts = [⟨fileName action, content⟩] ∧ artifacts' = [⟨fileName action', content'⟩] ∧
      (operationText? operation = none → operationText? operation' = none →
        (content = content' ↔
          facts.arguments = facts'.arguments ∧ facts.outputFields = facts'.outputFields)) ∧
      (∀ source source', operationText? operation = some source →
        operationText? operation' = some source' →
        (content = content' ↔
          action = action' ∧ facts.arguments = facts'.arguments ∧ source = source' ∧
            endpointVariable = endpointVariable')) ∧
      ((operationText? operation).isSome ≠ (operationText? operation').isSome →
        content ≠ content') := by
  obtain ⟨facts, content, hfacts, hartifacts, hmode⟩ := handler_of_generate hfirst
  obtain ⟨facts', content', hfacts', hartifacts', hmode'⟩ := handler_of_generate hsecond
  refine ⟨facts, facts', content, content', hfacts, hfacts', hartifacts, hartifacts', ?_, ?_, ?_⟩
  · intro hplain hplain'
    rw [hplain] at hmode
    rw [hplain'] at hmode'
    obtain ⟨_, rfl⟩ | ⟨_, _, hsource, _⟩ := hmode
    · obtain ⟨_, rfl⟩ | ⟨_, _, hsource', _⟩ := hmode'
      · exact handler_plain_eq_iff (wellNamed_of_findAction hfacts)
          (wellNamed_of_findAction hfacts')
      · cases hsource'
    · cases hsource
  · intro source source' hrelayed hrelayed'
    rw [hrelayed] at hmode
    rw [hrelayed'] at hmode'
    obtain ⟨hnone, _⟩ | ⟨_, derive, hsource, hderive, rfl⟩ := hmode
    · cases hnone
    · obtain ⟨hnone', _⟩ | ⟨_, derive', hsource', hderive', rfl⟩ := hmode'
      · cases hnone'
      · cases hsource
        cases hsource'
        rw [handler_relaying_eq_iff (wellNamed_of_findAction hfacts)
          (wellNamed_of_findAction hfacts') hderive hderive', name_of_findAction hfacts,
          name_of_findAction hfacts']
  · intro hdifferent
    obtain ⟨hnone, rfl⟩ | ⟨_, _, hsource, _, rfl⟩ := hmode
    · obtain ⟨hnone', rfl⟩ | ⟨_, _, hsource', _, rfl⟩ := hmode'
      · exact absurd (by rw [hnone, hnone']) hdifferent
      · exact handler_plain_ne_relaying _ _ _ _ _
    · obtain ⟨hnone', rfl⟩ | ⟨_, _, hsource', _, rfl⟩ := hmode'
      · exact (handler_plain_ne_relaying _ _ _ _ _).symm
      · exact absurd (by rw [hsource, hsource']; rfl) hdifferent

/-- The same action and operation for two endpoint variables give two contents. -/
theorem content_tells_endpoint :
    ∃ content content',
      (generate "a" "type Mutation\x7ba:T\x7dtype T\x7bb:B\x7d" (some "\x7bc\x7d") "E").result =
        .ok [⟨"a.js", content⟩] ∧
      (generate "a" "type Mutation\x7ba:T\x7dtype T\x7bb:B\x7d" (some "\x7bc\x7d") "F").result =
        .ok [⟨"a.js", content'⟩] ∧
      content ≠ content' := by
  have hfacts : findAction "a" "type Mutation\x7ba:T\x7dtype T\x7bb:B\x7d" =
      .ok ⟨"a", [], "T", ["b"]⟩ := ok_of_toOption (by decide +kernel)
  have hderive : findOperation "\x7bc\x7d" = .ok ⟨"c", []⟩ := ok_of_toOption (by decide +kernel)
  have hgenerate : ∀ endpointVariable : String,
      (generate "a" "type Mutation\x7ba:T\x7dtype T\x7bb:B\x7d" (some "\x7bc\x7d")
        endpointVariable).result = .ok [artifact "a" (.relaying ⟨"a", [], "T", ["b"]⟩ ⟨"c", []⟩
          "\x7bc\x7d" endpointVariable)] := by
    intro endpointVariable
    rw [result_generate_of_source endpointVariable hfacts (by decide), hderive]
    rfl
  obtain ⟨_, _, content, content', _, _, hartifacts, hartifacts', _, hrelaying, _⟩ :=
    content_tells_facts (hgenerate "E") (hgenerate "F")
  have htells := hrelaying "\x7bc\x7d" "\x7bc\x7d" (operationText?_of_ne_empty (by decide))
    (operationText?_of_ne_empty (by decide))
  refine ⟨content, content', ?_, ?_, ?_⟩
  · rw [hgenerate, hartifacts]
    rfl
  · rw [hgenerate, hartifacts']
    rfl
  · intro heq
    obtain ⟨_, _, _, hendpoint⟩ := htells.mp heq
    exact absurd hendpoint (by decide)

end ActionHandler.Generation
