import ActionHandler.Proofs.Generation.Stages
import ActionHandler.Proofs.Javascript.TemplateLiteral

/-! # The operation in a handler

A handler that relays an operation holds its text in a template literal, between two line
feeds. Whatever the text is, JavaScript finds no substitution in the literal, finds its
end at the backquote of the template, and reads the text itself with unified line endings.
The line feed of the template behind the text completes a carriage return at its end, so
that both together are read as one line ending.
-/

namespace ActionHandler.Handler

open Generation Javascript Text

/-- The text of a relaying handler in front of the backquote that opens its literal. -/
def operationPreamble (action : String) : String :=
  unlines ["", "const fetch = require('node-fetch');", ""] ++ "const " ++
    queryConstantName action ++ " = "

/-- The texts for the holes of the fetch block other than that for the operation. -/
def fetchTexts (action endpointVariable name : String) : String :=
  if name = "query_name" then queryConstantName action
  else if name = "execute_name" then executeFunctionName action
  else endpointVariable

/-- The text of the fetch block behind its operation. -/
def fetchBehindOperation (action endpointVariable : String) : String :=
  (fetchExecute.template.behindHole "operation_source").fill (fetchTexts action endpointVariable)

/-- That fragments of a handler hold an operation that JavaScript reads as a given value:
the literal behind the constant has no substitution and is closed by the backquote of the
template, and this is its value. -/
def OperationReadsAs (action endpointVariable : String) (fragments : List Fragment)
    (value : List Char) : Prop :=
  ∃ fetch others literal parts rest,
    fragments = fetch :: others ∧
    (assemble fragments).toList = (operationPreamble action).toList ++ '\x60' :: literal ∧
    scanFrom false literal = .closed parts rest ∧
    (fetchBehindOperation action endpointVariable ++ assemble others).toList =
      '\n' :: '\x60' :: rest ∧
    valueFrom? false parts = some value

/-- What JavaScript reads for the text of an operation. -/
def operationValue (source : List Char) : List Char :=
  '\n' :: if source.getLast? = some '\r' then unifyLineEndings source
    else unifyLineEndings source ++ ['\n']

/-- Fragments hold one operation only. -/
theorem OperationReadsAs.unique {action endpointVariable : String} {fragments : List Fragment}
    {first second : List Char} (hfirst : OperationReadsAs action endpointVariable fragments first)
    (hsecond : OperationReadsAs action endpointVariable fragments second) : first = second := by
  obtain ⟨_, _, literal, parts, _, _, htext, hscan, _, hvalue⟩ := hfirst
  obtain ⟨_, _, literal', parts', _, _, htext', hscan', _, hvalue'⟩ := hsecond
  have hliteral : literal = literal' :=
    List.tail_eq_of_cons_eq (List.append_cancel_left (htext.symm.trans htext'))
  subst hliteral
  have hparts : parts = parts' := (Scanned.closed.inj (hscan.symm.trans hscan')).1
  subst hparts
  exact Option.some.inj (hvalue.symm.trans hvalue')

theorem fill_fetchExecute {text : String → String} {action source endpointVariable : String}
    (hquery : text "query_name" = queryConstantName action)
    (hexecute : text "execute_name" = executeFunctionName action)
    (hsource : text "operation_source" = escapeTemplateLiteral source)
    (hendpoint : text "endpoint_env_var" = endpointVariable) :
    fetchExecute.template.fill text =
      operationPreamble action ++ "\x60\n" ++ escapeTemplateLiteral source ++
        fetchBehindOperation action endpointVariable := by
  have hbehind : (fetchExecute.template.behindHole "operation_source").fill text =
      fetchBehindOperation action endpointVariable := by
    have hholes : (fetchExecute.template.behindHole "operation_source").holes =
        ["execute_name", "endpoint_env_var", "query_name"] := by decide
    unfold fetchBehindOperation
    apply Template.fill_congr
    intro name hname
    rw [hholes] at hname
    simp only [List.mem_cons, List.not_mem_nil, or_false] at hname
    rcases hname with rfl | rfl | rfl
    · exact hexecute
    · exact hendpoint
    · exact hquery
  have hsplit : fetchExecute.template.fill text =
      unlines ["", "const fetch = require('node-fetch');", ""] ++ ("const " ++
        (text "query_name" ++ (" = \x60\n" ++ (text "operation_source" ++
          (fetchExecute.template.behindHole "operation_source").fill text)))) := rfl
  have hopen : " = " ++ "\x60\n" = " = \x60\n" := by decide
  rw [hsplit, hbehind, hquery, hsource, ← hopen, operationPreamble]
  simp only [String.append_assoc]

theorem toList_escapeTemplateLiteral (source : String) :
    (escapeTemplateLiteral source).toList = escapeOnward source.toList := by
  rw [escapeTemplateLiteral, String.toList_ofList, escapeTemplateChars_eq_escapeOnward]

/-- The closing backquote stands right behind the line feed that follows the operation. -/
theorem exists_fetchBehindOperation (action endpointVariable : String) :
    ∃ rest, (fetchBehindOperation action endpointVariable).toList = '\n' :: '\x60' :: rest := by
  have hsplit : fetchBehindOperation action endpointVariable =
      "\n" ++ (unlines ["\x60;", ""] ++
        Template.fill _ ((fetchExecute.template.behindHole "operation_source").drop 2)) := rfl
  have hclose : unlines ["\x60;", ""] = "\x60" ++ ";\n\n" := by decide
  rw [hsplit, hclose, String.toList_append, String.toList_append, String.toList_append]
  exact ⟨_, rfl⟩

theorem operationValue_eq (source : List Char) :
    operationValue source = '\n' :: unifyLineEndings (source ++ ['\n']) := by
  rw [operationValue, unifyLineEndings_append_lineFeed]

theorem operationReadsAs_of_fetch {action source endpointVariable : String} {fetch : Fragment}
    (others : List Fragment)
    (hfetch : fetch.text = operationPreamble action ++ "\x60\n" ++
      escapeTemplateLiteral source ++ fetchBehindOperation action endpointVariable) :
    OperationReadsAs action endpointVariable (fetch :: others)
      (operationValue source.toList) := by
  obtain ⟨rest, hrest⟩ := exists_fetchBehindOperation action endpointVariable
  refine ⟨fetch, others, _, literalOf source.toList, rest ++ (assemble others).toList, rfl, ?_,
    scanFrom_literalOf source.toList _, ?_, ?_⟩
  · have htext : assemble (fetch :: others) = fetch.text ++ assemble others := by
      rw [assemble, List.map_cons, Text.joined_cons, assemble]
    rw [htext, hfetch]
    simp [hrest, toList_escapeTemplateLiteral]
  · rw [String.toList_append, hrest]
    rfl
  · rw [valueFrom?_literalOf, operationValue_eq]

theorem operationReadsAs_of_relay (context : Context) {relay : Relay}
    {action source endpointVariable : String} (hrelay : context.relay = some relay)
    (hquery : relay.queryName = queryConstantName action)
    (hexecute : relay.executeName = executeFunctionName action)
    (hsource : relay.operationSource = escapeTemplateLiteral source)
    (hendpoint : relay.endpointVariable = endpointVariable) :
    OperationReadsAs action endpointVariable
      ((fragmentTemplates context.relay.isSome).map (·.fill context.text))
      (operationValue source.toList) := by
  have hbindings : context.bindings = ("action_name", context.actionName) ::
      ("destructure", context.destructure) :: ("output_literal", context.outputLiteral) ::
      relay.bindings := by
    rw [Context.bindings, hrelay]
    rfl
  have htext : ∀ name, context.text name = (List.lookup name (("action_name",
      context.actionName) :: ("destructure", context.destructure) ::
      ("output_literal", context.outputLiteral) :: relay.bindings)).getD "" := by
    intro name
    rw [Context.text, hbindings, Text.ofString_string]
  rw [hrelay]
  apply operationReadsAs_of_fetch
  apply fill_fetchExecute
  · rw [htext, ← hquery]
    rfl
  · rw [htext, ← hexecute]
    rfl
  · rw [htext, ← hsource]
    rfl
  · rw [htext, ← hendpoint]
    rfl

/-- Whatever the text of an operation is, JavaScript reads it back from the handler: as it
is, between two line feeds and with unified line endings, and without the line feed of the
template when the text ends in a carriage return. -/
theorem operation_reads_back :
    (∀ (given : GivenAction) (operation : GivenOperation) (source : String)
        (endpointVariable : String) (context : Context) (fragments : List Fragment),
      Context.build given (some operation) (some source) endpointVariable = .ok context →
      renderFragments context.toRenderContext = .ok fragments →
      ∃ action, given.name = some action ∧
        OperationReadsAs action endpointVariable fragments (operationValue source.toList)) ∧
    (∀ (action schema source endpointVariable : String) (artifacts : List Artifact),
      source ≠ "" →
      (generate action schema (some source) endpointVariable).result = .ok artifacts →
      ∃ fragments, artifacts = [⟨fileName action, assemble fragments⟩] ∧
        OperationReadsAs action endpointVariable fragments (operationValue source.toList)) ∧
    (∀ source : List Char, '\r' ∉ source →
      operationValue source = '\n' :: source ++ ['\n']) := by
  refine ⟨?_, ?_, ?_⟩
  · intro given operation source endpointVariable context fragments hbuild hrender
    obtain ⟨action, relay, haction, hrelay, hquery, hexecute, hsource, hendpoint⟩ :=
      Context.relay_of_build hbuild
    rw [Context.renderFragments_toRenderContext] at hrender
    cases hrender
    exact ⟨action, haction,
      operationReadsAs_of_relay context hrelay hquery hexecute hsource hendpoint⟩
  · intro action schema source endpointVariable artifacts hsource hgenerate
    obtain ⟨facts, derive, hfacts, _, hartifacts⟩ :=
      relaying_of_generate (operationText?_of_ne_empty hsource) hgenerate
    obtain rfl := name_of_findAction hfacts
    refine ⟨_, ?_, operationReadsAs_of_relay (.relaying facts derive source endpointVariable)
      rfl rfl rfl rfl rfl⟩
    rw [hartifacts, Context.assemble_fragments]
    rfl
  · intro source hsource
    have hlast : source.getLast? ≠ some '\r' :=
      fun hlast => hsource (List.mem_of_getLast? hlast)
    rw [operationValue, if_neg hlast, unifyLineEndings_eq_self hsource, List.cons_append]

/-- A carriage return at the end of an operation and the line feed of the template behind it
are one line ending, so the value has one line feed less than the text and the template
have line endings. -/
theorem operation_ending_in_return :
    ∃ content literal parts rest value,
      (generate "a" "type Mutation\x7ba:T\x7dtype T\x7bb:B\x7d" (some "\x7bc\x7d\r") "E").result =
        .ok [⟨"a.js", content⟩] ∧
      content.toList = (operationPreamble "a").toList ++ '\x60' :: literal ∧
      scanFrom false literal = .closed parts rest ∧
      valueFrom? false parts = some value ∧
      value ≠ '\n' :: unifyLineEndings "\x7bc\x7d\r".toList ++ ['\n'] := by
  have hfacts : findAction "a" "type Mutation\x7ba:T\x7dtype T\x7bb:B\x7d" =
      .ok ⟨"a", [], "T", ["b"]⟩ := ok_of_toOption (by decide +kernel)
  have hderive : findOperation "\x7bc\x7d\r" = .ok ⟨"c", []⟩ := ok_of_toOption (by decide +kernel)
  have hreads := operationReadsAs_of_relay
    (.relaying ⟨"a", [], "T", ["b"]⟩ ⟨"c", []⟩ "\x7bc\x7d\r" "E") rfl rfl rfl rfl rfl
  obtain ⟨_, _, literal, parts, rest, _, htext, hscan, _, hvalue⟩ := hreads
  refine ⟨_, literal, parts, rest, _, ?_, htext, hscan, hvalue, by decide⟩
  rw [result_generate_of_source "E" hfacts (by decide), hderive, Context.assemble_fragments]
  rfl

end ActionHandler.Handler
