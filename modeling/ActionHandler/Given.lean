import ActionHandler.Action
import ActionHandler.DeriveOperation

/-! # Given facts

A handler is put together from facts that a caller gives, who may leave some of them
out. A fact that is left out is a fault only where it is asked for.
-/

namespace ActionHandler

/-- The fact with a given key. -/
def ask {α : Type} (key : String) : Option α → Except Interruption α
  | some value => .ok value
  | none => .error (.fault (.missingKey key))

/-- What a caller says about an action. -/
structure GivenAction where
  name : Option String
  arguments : Option (List String)
  outputFields : Option (List String)
  deriving DecidableEq, Repr

/-- What a caller says about the operation to relay. -/
structure GivenOperation where
  rootField : Option String
  variableNames : Option (List String)
  deriving DecidableEq, Repr

/-- What a caller says about a file to write. -/
structure GivenArtifact where
  name : Option Text.RawText
  content : Option Text.RawText
  deriving DecidableEq, Repr

/-- All facts about an action. -/
def Action.given (action : Action) : GivenAction :=
  ⟨some action.name, some action.arguments, some action.outputFields⟩

/-- All facts about an operation. -/
def DeriveOperation.given (operation : DeriveOperation) : GivenOperation :=
  ⟨some operation.rootField, some operation.variableNames⟩

end ActionHandler
