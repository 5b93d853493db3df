import ActionHandler.Graphql.Lookup
import ActionHandler.Log

/-! # Actions of a schema

An action is a field of the mutation type. What a handler needs to know of it are the
names of its arguments and the fields of the object that it returns.
-/

namespace ActionHandler

open Graphql

/-- The name of the type whose fields are actions. -/
def mutationTypeName : String := "Mutation"

/-- The first member of a mutation type that has the name of an action. -/
def findActionMember? (document : Document) (action : String) : Option Member :=
  (document.typesNamed mutationTypeName).findSome? (·.findMember? action)

/-- What a handler needs to know of an action, names being in source order. -/
structure Action where
  name : String
  arguments : List String
  outputType : String
  outputFields : List String
  deriving DecidableEq, Repr

namespace Action

/-- The source of the records about actions. -/
def logSource : String := "action_codegen.schema_parser"

/-- The names of the arguments of a member. -/
def argumentNames (member : Member) : Except Interruption (List String) :=
  match member.arguments? with
  | some arguments => .ok (arguments.map (·.name.text))
  | none => .error (.fault .argumentsOfInputField)

/-- The names of the members of the output type of an action. -/
def outputFieldNames (document : Document) (action type : String) :
    Except Interruption (List String) :=
  match document.findType? type with
  | none => .error (.failure (.noOutputType action type Failure.notDefined))
  | some declaration =>
      match declaration.members? with
      | none => .error (.failure (.noOutputType action type Failure.withoutFields))
      | some members => .ok (members.map (·.name.text))

/-- The member that an action is, in a document that declares a mutation type. -/
def member (document : Document) (action : String) : Except Interruption Member :=
  match document.findType? mutationTypeName with
  | none => .error (.failure .noMutationType)
  | some _ =>
      match findActionMember? document action with
      | none => .error (.failure (.noAction action))
      | some member => .ok member

/-- Finds an action in a document. -/
def ofDocument (document : Document) (name : String) : Traced Action := do
  let member ← .ofExcept (member document name)
  let arguments ← .ofExcept (argumentNames member)
  .record .info logSource ("Input arguments: " ++ String.intercalate ", " arguments)
  let outputType := member.type.innermost.text
  let outputFields ← .ofExcept (outputFieldNames document name outputType)
  .record .info logSource ("Output type: " ++ outputType)
  .record .info logSource ("Output type fields: " ++ String.intercalate ", " outputFields)
  return ⟨name, arguments, outputType, outputFields⟩

/-- Finds the action that a raw text names. One with surrogates names no member of any type. -/
def ofRawText (document : Document) (name : Text.RawText) : Traced Action :=
  match name.text? with
  | some name => ofDocument document name
  | none =>
      .ofExcept <| .error <| .failure <|
        match document.findType? mutationTypeName with
        | none => .noMutationType
        | some _ => .noAction name

end Action

end ActionHandler
