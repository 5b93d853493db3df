import ActionHandler.Given
import ActionHandler.Handler.Literal
import ActionHandler.Handler.Naming

/-! # The context of a handler

Everything that a handler is rendered from: the literals for the action and, if the
handler relays an operation, the names and literals for the operation. Each variable of
the operation must be an argument of the action. The endpoint variable, which comes from
outside, may be any kind of text; all else is strings.
-/

namespace ActionHandler.Handler

/-- The part of a context that only relaying handlers have. -/
structure Relay (τ : Type := String) where
  queryName : String
  executeName : String
  operationSource : String
  rootField : String
  variablesLiteral : String
  endpointVariable : τ
  deriving DecidableEq, Repr

/-- What a handler is rendered from. -/
structure Context (τ : Type := String) where
  actionName : String
  arguments : List String
  outputFields : List String
  destructure : String
  outputLiteral : String
  relay : Option (Relay τ)
  deriving DecidableEq, Repr

variable {τ : Type}

/-- The variables that are not among the arguments, as often as they are declared. -/
def unboundVariables (arguments names : List String) : List String :=
  names.filter (!arguments.contains ·)

/-- The variables of an operation, all of which must be arguments of the action. -/
def bindVariables (action : GivenAction) (names : List String) :
    Except Interruption (List String) := do
  let arguments ← ask "arguments" action.arguments
  match unboundVariables arguments names with
  | [] => return names
  | unbound =>
      let name ← ask "name" action.name
      throw (.failure (.unboundVariables name unbound))

/-- The part of a context about the operation to relay. -/
def Relay.build (action : GivenAction) (operation : GivenOperation) (source : String)
    (endpointVariable : τ) : Except Interruption (Relay τ) := do
  let names ← bindVariables action (← ask "variables" operation.variableNames)
  let name ← ask "name" action.name
  let rootField ← ask "root_field" operation.rootField
  return {
    queryName := queryConstantName name
    executeName := executeFunctionName name
    operationSource := escapeTemplateLiteral source
    rootField
    variablesLiteral := Handler.variablesLiteral names
    endpointVariable }

/-- The context of a handler. An operation without a source is relayed as empty text. -/
def Context.build (action : GivenAction) (operation : Option GivenOperation)
    (source : Option String) (endpointVariable : τ) : Except Interruption (Context τ) := do
  let actionName ← ask "name" action.name
  let arguments ← ask "arguments" action.arguments
  let outputFields ← ask "output_fields" action.outputFields
  let relay ←
    match operation with
    | none => pure none
    | some operation =>
        some <$> Relay.build action operation (source.getD "") endpointVariable
  return {
    actionName
    arguments
    outputFields
    destructure := destructurePattern arguments
    outputLiteral := Handler.outputLiteral outputFields
    relay }

end ActionHandler.Handler
