import ActionHandler.Handler.Context
import ActionHandler.Handler.Template

/-! # The fragments of a handler

A handler is three fragments in a row. A plain handler begins, leaves room for business
logic and responds with empty output; a relaying one declares the function that sends
the operation, begins, and calls it.
-/

namespace ActionHandler.Handler

open Text (Textual joined)

/-- A named part of a handler. -/
structure Fragment (τ : Type := String) where
  name : String
  text : τ
  deriving DecidableEq, Repr

/-- A named template of a part. -/
structure FragmentTemplate where
  name : String
  template : Template
  deriving DecidableEq, Repr

/-- The head of the handler function, which takes the arguments out of the request. -/
def handlerBeginning : FragmentTemplate where
  name := "handler_beginning"
  template := [
    .lines [
      "",
      "module.exports = async function (context, req) \x7b"],
    .text "  const ", .hole "destructure", .text " = req.body.input;\n"]

/-- The place for business logic. -/
def businessLogic : FragmentTemplate where
  name := "business_logic"
  template := [
    .lines [
      "",
      "  // Write business logic that deals with inputs here...",
      ""]]

/-- The end of a plain handler, which responds with the output fields. -/
def errorSuccessResponse : FragmentTemplate where
  name := "error_success_response"
  template := [
    .lines [
      "",
      "  // If error:",
      "  // context.res = \x7b",
      "  //   status: 400,",
      "  //   body: \x7b code: \"internal-error\", message: \"Internal error.\" \x7d",
      "  // \x7d;",
      "  // return;",
      "",
      "  context.res = \x7b",
      "    headers: \x7b 'Content-Type': 'application/json' \x7d,"],
    .text "    body: ", .hole "output_literal", .text "\n",
    .lines [
      "  \x7d;",
      "\x7d;"]]

/-- The operation of a relaying handler and the function that sends it. -/
def fetchExecute : FragmentTemplate where
  name := "fetch_execute"
  template := [
    .lines [
      "",
      "const fetch = require('node-fetch');",
      ""],
    .text "const ", .hole "query_name", .text " = \x60\n",
    .hole "operation_source", .text "\n",
    .lines [
      "\x60;",
      ""],
    .text "const ", .hole "execute_name", .text " = async (variables, headers) => \x7b\n",
    .text "  const result = await fetch(process.env.", .hole "endpoint_env_var",
    .text ", \x7b\n",
    .lines [
      "    method: 'POST',",
      "    body: JSON.stringify(\x7b"],
    .text "      query: ", .hole "query_name", .text ",\n",
    .lines [
      "      variables",
      "    \x7d),",
      "    headers: headers || \x7b\x7d",
      "  \x7d);",
      "",
      "  const data = await result.json();",
      "  return data;",
      "\x7d;"]]

/-- The end of a relaying handler, which sends the operation and passes on the answer. -/
def runExecute : FragmentTemplate where
  name := "run_execute"
  template := [
    .lines [
      "",
      "  // Execute the Hasura operation"],
    .text "  const \x7bdata, errors\x7d = await ", .hole "execute_name", .text "(",
    .hole "variables_literal", .text ", req.headers);\n",
    .lines [
      "",
      "  // If the Hasura operation returned an error",
      "  if (errors) \x7b",
      "    context.res = \x7b",
      "      headers: \x7b 'Content-Type': 'application/json' \x7d,",
      "      status: 400,",
      "      body: \x7b",
      "        message: errors[0].message",
      "      \x7d",
      "    \x7d;",
      "    return;",
      "  \x7d",
      "",
      "  // If success",
      "  context.res = \x7b",
      "    headers: \x7b 'Content-Type': 'application/json' \x7d,",
      "    body: \x7b"],
    .text "      ...data.", .hole "root_field", .text "\n",
    .lines [
      "    \x7d",
      "  \x7d;",
      "\x7d;"]]

/-- The fragments of a plain handler, in order. -/
def plainFragments : List FragmentTemplate :=
  [handlerBeginning, businessLogic, errorSuccessResponse]

/-- The fragments of a relaying handler, in order. -/
def relayFragments : List FragmentTemplate :=
  [fetchExecute, handlerBeginning, runExecute]

/-- The texts that fragments are rendered from, and whether they are those of a relaying
handler. -/
structure RenderContext (τ : Type := String) where
  isDerived : Option Bool
  bindings : Bindings τ
  deriving DecidableEq, Repr

variable {τ : Type} [Append τ] [Textual τ]

/-- The texts by which a context fills the holes of its templates. -/
def Relay.bindings (relay : Relay τ) : Bindings τ := [
  ("query_name", Textual.ofString relay.queryName),
  ("execute_name", Textual.ofString relay.executeName),
  ("operation_source", Textual.ofString relay.operationSource),
  ("root_field", Textual.ofString relay.rootField),
  ("variables_literal", Textual.ofString relay.variablesLiteral),
  ("endpoint_env_var", relay.endpointVariable)]

/-- The texts by which a context fills the holes of its templates. -/
def Context.bindings (context : Context τ) : Bindings τ :=
  ("action_name", Textual.ofString context.actionName) ::
  ("destructure", Textual.ofString context.destructure) ::
  ("output_literal", Textual.ofString context.outputLiteral) ::
  match context.relay with
  | none => []
  | some relay => relay.bindings

/-- The form of a context from which fragments are rendered. -/
def Context.toRenderContext (context : Context τ) : RenderContext τ :=
  ⟨some context.relay.isSome, context.bindings⟩

/-- Renders a fragment. -/
def FragmentTemplate.render (bindings : Bindings τ) (fragment : FragmentTemplate) :
    Except Interruption (Fragment τ) := do
  return ⟨fragment.name, ← fragment.template.render bindings⟩

/-- The templates for a mode. -/
def fragmentTemplates (isDerived : Bool) : List FragmentTemplate :=
  if isDerived then relayFragments else plainFragments

/-- Renders fragments in order. -/
def renderAll (bindings : Bindings τ) :
    List FragmentTemplate → Except Interruption (List (Fragment τ))
  | [] => .ok []
  | fragment :: rest => do
      let first ← fragment.render bindings
      let others ← renderAll bindings rest
      return first :: others

/-- Renders the fragments for the mode of a context. -/
def renderFragments (context : RenderContext τ) : Except Interruption (List (Fragment τ)) := do
  let isDerived ← ask "is_derived" context.isDerived
  renderAll context.bindings (fragmentTemplates isDerived)

/-- The text of a handler made of fragments. -/
def assemble (fragments : List (Fragment τ)) : τ :=
  joined (fragments.map (·.text))

end ActionHandler.Handler
