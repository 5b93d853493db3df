import ActionHandler.Proofs.Generation.Names
import ActionHandler.Proofs.Handler.Naming
import ActionHandler.Proofs.Handler.OperationText
import ActionHandler.Proofs.Handler.TemplateLines
import ActionHandler.Proofs.Javascript.NameList

/-! # Reading what a handler relays

A relaying handler sends an operation and passes on the answer. Which names it uses for that
can be read from its text: the constant and the function that it declares around the literal
with the operation, the names that it takes out of the request, and what it calls and passes
on behind them. The endpoint variable may be any text, so the lines behind it are looked for
from the end.
-/

namespace ActionHandler.Handler

open Graphql Javascript Text

/-- What the text of a handler says about what it relays. -/
structure RelayReading where
  /-- The constant that holds the operation. -/
  constant : String
  /-- The function that sends it. -/
  function : String
  /-- What the function sends as the query. -/
  sent : String
  /-- The names that are taken out of the request. -/
  bound : List String
  /-- The function that the handler calls. -/
  called : String
  /-- The names of the variables that it passes to this function. -/
  passed : List String
  /-- The member of the answer that it passes on. -/
  unwrapped : String
  deriving DecidableEq, Repr

/-- The text behind a template literal without substitutions. -/
def behindLiteral? : List Char → Option (List Char)
  | '\x60' :: literal =>
      match scanFrom false literal with
      | .closed _ rest => some rest
      | _ => none
  | _ => none

/-- The names of a text that is nothing but names in braces. -/
def wholeNames? (text : List Char) : Option (List String) :=
  match readNames? text with
  | some (names, []) => some names
  | _ => none

/-- Reads what a handler relays. -/
def relayReading? (content : String) : Option RelayReading := do
  let text := content.toList
  let constant ← lastBetween? "const ".toList " = ".toList (text.takeWhile (· != '\x60'))
  let behind ← behindLiteral? (text.dropWhile (· != '\x60'))
  let function ←
    firstBetween? "const ".toList " = async (variables, headers) => \x7b".toList behind
  let sent ← lastBetween? "      query: ".toList ",".toList text
  let bound ← lastBetween? "  const ".toList " = req.body.input;".toList text
  let call ←
    lastBetween? "  const \x7bdata, errors\x7d = await ".toList ", req.headers);".toList text
  let unwrapped ← lastBetween? "      ...data.".toList "".toList text
  return {
    constant := String.ofList constant
    function := String.ofList function
    sent := String.ofList sent
    bound := ← wholeNames? bound
    called := String.ofList (call.takeWhile (· != '('))
    passed := ← wholeNames? (call.dropWhile (· != '(')).tail
    unwrapped := String.ofList unwrapped }

variable {facts : Action} {derive : DeriveOperation} {names : List String} {action : String}

theorem wholeNames?_destructurePattern (hnames : ∀ name ∈ names, IsName name) :
    wholeNames? (destructurePattern names).toList = some names := by
  have hread := readNames?_destructurePattern hnames []
  rw [List.append_nil] at hread
  rw [wholeNames?, hread]

theorem wholeNames?_variablesLiteral (hnames : ∀ name ∈ names, IsName name) :
    wholeNames? (variablesLiteral names).toList = some names := by
  have hread := readNames?_variablesLiteral hnames []
  rw [List.append_nil] at hread
  rw [wholeNames?, hread]

/-! ## Around the literal -/

theorem behindLiteral?_of_closed {literal rest : List Char} {parts : List LiteralPart}
    (hscan : scanFrom false literal = .closed parts rest) :
    behindLiteral? ('\x60' :: literal) = some rest := by
  rw [behindLiteral?, hscan]

theorem not_mem_operationPreamble (haction : IsName action) :
    '\x60' ∉ (operationPreamble action).toList := by
  have hquery : '\x60' ∉ (queryConstantName action).toList :=
    (isName_queryConstantName haction).not_mem (by decide)
  have hlines : '\x60' ∉ (unlines ["", "const fetch = require('node-fetch');", ""]).toList := by
    decide
  simp [operationPreamble, hquery, hlines]

theorem lastBetween?_operationPreamble (haction : IsName action) :
    lastBetween? "const ".toList " = ".toList (operationPreamble action).toList =
      some (queryConstantName action).toList := by
  have hlines : unlines ["", "const fetch = require('node-fetch');", ""] =
      "\nconst fetch = require('node-fetch');\n" ++ "\n" := by decide
  have hline : '\n' ∉ ("const " ++ queryConstantName action ++ " = ").toList := by
    have hquery : '\n' ∉ (queryConstantName action).toList :=
      (isName_queryConstantName haction).not_mem (by decide)
    simp [hquery]
  have hsplit : (operationPreamble action).toList =
      "\nconst fetch = require('node-fetch');\n".toList ++
        '\n' :: ("const " ++ queryConstantName action ++ " = ").toList := by
    simp [operationPreamble, hlines]
  have hfound : between? "const ".toList " = ".toList
      ("const " ++ queryConstantName action ++ " = ").toList =
        some (queryConstantName action).toList := by
    rw [between?_eq_some_iff]
    simp
  rw [hsplit, lastBetween?_append hline, hfound]
  rfl

theorem firstBetween?_behindLiteral {endpointVariable : String} (haction : IsName action)
    {others rest : List Char}
    (hrest : (fetchBehindOperation action endpointVariable).toList ++ others =
      '\n' :: '\x60' :: rest) :
    firstBetween? "const ".toList " = async (variables, headers) => \x7b".toList rest =
      some (executeFunctionName action).toList := by
  let line := "const " ++ executeFunctionName action ++ " = async (variables, headers) => \x7b"
  have hsplit : fetchBehindOperation action endpointVariable =
      "\n" ++ (unlines ["\x60;", ""] ++ ("const " ++ (executeFunctionName action ++
        (" = async (variables, headers) => \x7b\n" ++
          Template.fill (fetchTexts action endpointVariable)
            ((fetchExecute.template.behindHole "operation_source").drop 5))))) := rfl
  have hclose : unlines ["\x60;", ""] = "\x60" ++ (";\n" ++ "\n") := by decide
  have hopen : " = async (variables, headers) => \x7b\n" =
      " = async (variables, headers) => \x7b" ++ "\n" := by decide
  obtain ⟨behind, hbehind⟩ : ∃ behind, rest =
      [';'] ++ '\n' :: ([] ++ '\n' :: (line.toList ++ '\n' :: behind)) := by
    rw [hsplit, hclose, hopen] at hrest
    simp only [String.toList_append, List.append_assoc] at hrest
    exact ⟨_, by simpa [line] using (List.cons.inj (List.cons.inj hrest).2).2.symm⟩
  have hline : '\n' ∉ line.toList := by
    have hexecute : '\n' ∉ (executeFunctionName action).toList :=
      (isName_executeFunctionName haction).not_mem (by decide)
    simp [line, hexecute]
  have hfound : between? "const ".toList " = async (variables, headers) => \x7b".toList
      line.toList = some (executeFunctionName action).toList := by
    rw [between?_eq_some_iff]
    simp [line]
  rw [hbehind, firstBetween?_append (by decide), firstBetween?_append (by decide),
    firstBetween?_append hline, hfound]
  rfl

/-- The constant and the function are read around the literal. -/
theorem reads_around_literal (hfacts : facts.WellNamed) (derive : DeriveOperation)
    (source endpointVariable : String) :
    let text := (Context.relaying facts derive source endpointVariable).handler.toList
    lastBetween? "const ".toList " = ".toList (text.takeWhile (· != '\x60')) =
        some (queryConstantName facts.name).toList ∧
      ∃ behind, behindLiteral? (text.dropWhile (· != '\x60')) = some behind ∧
        firstBetween? "const ".toList " = async (variables, headers) => \x7b".toList behind =
          some (executeFunctionName facts.name).toList := by
  obtain ⟨_, others, literal, _, rest, _, htext, hscan, hrest, _⟩ :=
    operationReadsAs_of_relay (.relaying facts derive source endpointVariable)
      rfl rfl rfl rfl rfl
  have hpreamble := not_mem_operationPreamble hfacts.name
  rw [Context.assemble_fragments] at htext
  rw [String.toList_append] at hrest
  dsimp only
  rw [htext, takeWhile_append_mark hpreamble, dropWhile_append_mark hpreamble]
  exact ⟨lastBetween?_operationPreamble hfacts.name, rest, behindLiteral?_of_closed hscan,
    firstBetween?_behindLiteral hfacts.name hrest⟩

/-! ## Behind the endpoint variable -/

/-- The part of a relaying handler behind its endpoint variable. -/
def behindEndpoint : Template :=
  (handlerTemplate true).behindHole "endpoint_env_var"

/-- The template tells what is sent, bound, called and unwrapped. -/
theorem tells_behindEndpoint :
    behindEndpoint.Tells "      query: " [.hole "query_name"] "," ∧
    behindEndpoint.Tells "  const " [.hole "destructure"] " = req.body.input;" ∧
    behindEndpoint.Tells "  const \x7bdata, errors\x7d = await "
      [.hole "execute_name", .text "(", .hole "variables_literal"] ", req.headers);" ∧
    behindEndpoint.Tells "      ...data." [.hole "root_field"] "" := by
  have hpieces : behindEndpoint = fetchExecute.template.drop 12 ++
      (handlerBeginning.template ++ runExecute.template) := rfl
  simp only [Template.Tells, Template.lines, hpieces, fetchExecute, handlerBeginning, runExecute,
    List.drop_succ_cons, List.drop_zero, List.cons_append, List.nil_append,
    Template.places_cons_lines, Template.places_cons_text, Template.places_cons_hole,
    List.flatMap_cons, String.reduceToList]
  decide +kernel

section

variable (hfacts : facts.WellNamed) (hderive : derive.WellNamed) (source endpointVariable : String)

include hfacts hderive

/-- Names, and literals made of names, have no line ends. -/
theorem lineFeed_not_mem_behindEndpoint : ∀ name ∈ behindEndpoint.holes,
    '\n' ∉ ((Context.relaying facts derive source endpointVariable).text name).toList := by
  have hholes : behindEndpoint.holes =
      ["query_name", "destructure", "execute_name", "variables_literal", "root_field"] := by
    decide +kernel
  intro name hname
  simp only [hholes, List.mem_cons, List.not_mem_nil, or_false] at hname
  rcases hname with rfl | rfl | rfl | rfl | rfl
  · exact (isName_queryConstantName hfacts.name).not_mem (by decide)
  · exact lineFeed_not_mem_destructurePattern hfacts.arguments
  · exact (isName_executeFunctionName hfacts.name).not_mem (by decide)
  · exact lineFeed_not_mem_variablesLiteral hderive.variableNames
  · exact hderive.rootField.not_mem (by decide)

/-- What the template tells behind the endpoint variable is found from the end. -/
theorem lastBetween?_handler {front back : String} {pieces : Template}
    (htells : behindEndpoint.Tells front pieces back) :
    lastBetween? front.toList back.toList
        (Context.relaying facts derive source endpointVariable).handler.toList =
      some (pieces.fill (Context.relaying facts derive source endpointVariable).text).toList := by
  have hhandler := Template.fill_around_hole
    (show "endpoint_env_var" ∈ (handlerTemplate true).holes by decide +kernel)
    (Context.relaying facts derive source endpointVariable).text
  have hrelay : (Context.relaying facts derive source endpointVariable).relay.isSome = true := rfl
  rw [Context.handler, hrelay, hhandler, ← String.append_assoc, String.toList_append]
  exact htells.lastBetween?_fill
    (lineFeed_not_mem_behindEndpoint hfacts hderive source endpointVariable) _

/-- A relaying handler is read back: it sends the operation that it declares by the function
that it declares, with the variables of the operation, which it takes out of the request with
all other arguments of the action, and it passes on the root field. -/
theorem relayReading?_handler :
    relayReading? (Context.relaying facts derive source endpointVariable).handler = some {
      constant := queryConstantName facts.name
      function := executeFunctionName facts.name
      sent := queryConstantName facts.name
      bound := facts.arguments
      called := executeFunctionName facts.name
      passed := derive.variableNames
      unwrapped := derive.rootField } := by
  obtain ⟨hconstant, behind, hbehind, hfunction⟩ :=
    reads_around_literal hfacts derive source endpointVariable
  obtain ⟨htellsSent, htellsBound, htellsCall, htellsUnwrapped⟩ := tells_behindEndpoint
  have hsent := lastBetween?_handler hfacts hderive source endpointVariable htellsSent
  have hbound := lastBetween?_handler hfacts hderive source endpointVariable htellsBound
  have hcall := lastBetween?_handler hfacts hderive source endpointVariable htellsCall
  have hunwrapped := lastBetween?_handler hfacts hderive source endpointVariable htellsUnwrapped
  -- What the context puts into the holes of these lines.
  have hquery : (Context.relaying facts derive source endpointVariable).text "query_name" =
      queryConstantName facts.name := rfl
  have hdestructure : (Context.relaying facts derive source endpointVariable).text "destructure" =
      destructurePattern facts.arguments := rfl
  have hexecute : (Context.relaying facts derive source endpointVariable).text "execute_name" =
      executeFunctionName facts.name := rfl
  have hvariables : (Context.relaying facts derive source endpointVariable).text
      "variables_literal" = variablesLiteral derive.variableNames := rfl
  have hroot : (Context.relaying facts derive source endpointVariable).text "root_field" =
      derive.rootField := rfl
  have hopen : "(".toList = ['('] := by decide
  rw [Template.fill_hole, hquery] at hsent
  rw [Template.fill_hole, hdestructure] at hbound
  rw [Template.fill, Template.fill, Template.fill_hole, Text.ofString_string, hexecute, hvariables,
    String.toList_append, String.toList_append, hopen, List.singleton_append] at hcall
  rw [Template.fill_hole, hroot] at hunwrapped
  have hcalled : '(' ∉ (executeFunctionName facts.name).toList :=
    (isName_executeFunctionName hfacts.name).not_mem (by decide)
  rw [relayReading?]
  simp only [hconstant, hbehind, hfunction, hsent, hbound, hcall, hunwrapped,
    takeWhile_append_mark hcalled, dropWhile_append_mark hcalled, List.tail_cons,
    wholeNames?_destructurePattern hfacts.arguments,
    wholeNames?_variablesLiteral hderive.variableNames, Option.bind_eq_bind, Option.bind_some,
    Option.pure_def, String.ofList_toList]

end

end ActionHandler.Handler
