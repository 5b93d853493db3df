import ActionHandler.Graphql.Document
import ActionHandler.Log

/-! # Operations that handlers relay

A handler may answer an action by relaying one operation to another service. What it
needs to know of the operation are its variables and the key under which the response
holds the payload: that of the first top-level field outside introspection.
-/

namespace ActionHandler

open Graphql

/-- A field that a selection set selects. -/
structure SelectedField where
  alias? : Option Name
  name : Name
  deriving DecidableEq

namespace SelectedField

/-- The key of a field in a response: its alias, or else its name. -/
def responseKey (field : SelectedField) : Name :=
  field.alias?.getD field.name

/-- Whether a field belongs to introspection, which two underscores announce. -/
def isIntrospection (field : SelectedField) : Bool :=
  ['_', '_'].isPrefixOf field.name.text.toList

end SelectedField

/-- The field that a selection is, if it is one. -/
def Graphql.Selection.field? : Selection → Option SelectedField
  | .field alias? name _ _ _ => some ⟨alias?, name⟩
  | _ => none

namespace Graphql.Operation

/-- The first top-level field outside introspection. Fragments are not looked into. -/
def rootField? (operation : Operation) : Option SelectedField :=
  (operation.selections.filterMap Selection.field?).find? (!·.isIntrospection)

/-- The names of the variables that an operation declares, in source order. -/
def variableNames (operation : Operation) : List String :=
  operation.variableDefinitions.map (·.name.text)

end Graphql.Operation

/-- What a handler needs to know of the operation that it relays. -/
structure DeriveOperation where
  rootField : String
  variableNames : List String
  deriving DecidableEq, Repr

namespace DeriveOperation

/-- The source of the records about operations. -/
def logSource : String := "action_codegen.operation_parser"

/-- The root field of an operation. -/
def rootField? (operation : Operation) : Except Interruption SelectedField :=
  match operation.rootField? with
  | some field => .ok field
  | none =>
      .error (.failure
        (.noRootField "no top-level field selection outside introspection fields"))

/-- The single operation that a document holds. -/
def single : Document → Except Interruption Operation
  | [] => .error (.failure (.noRootField "the document is empty"))
  | [.operation operation] => .ok operation
  | [_] => .error (.failure (.unsupportedOperation "the definition is not an operation"))
  | definitions =>
      .error (.failure (.unsupportedOperation
        ("expected a single operation, found " ++ toString definitions.length ++ " definitions")))

/-- Analyses the operation that a document holds. -/
def ofDocument (document : Document) : Traced DeriveOperation := do
  let operation ← .ofExcept (single document)
  let field ← .ofExcept (rootField? operation)
  let rootField := field.responseKey.text
  let variableNames := operation.variableNames
  .record .info logSource ("Derive root field name: " ++ rootField)
  .record .info logSource ("Derive variable names: " ++ String.intercalate ", " variableNames)
  return ⟨rootField, variableNames⟩

end DeriveOperation

end ActionHandler
