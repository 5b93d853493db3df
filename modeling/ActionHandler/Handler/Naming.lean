import ActionHandler.Text.Casing

/-! # Names derived from the name of an action

Every name in a handler is a function of the name of its action, so that handlers for
several actions can share a module.
-/

namespace ActionHandler.Handler

/-- The constant that holds the operation of an action. -/
def queryConstantName (action : String) : String :=
  "HASURA_" ++ action

/-- The name of an action with its first letter in upper case. A name that does not
start with a lower-case letter gets an underscore before it, which keeps it apart from
the name that does. -/
def capitalize : List Char → List Char
  | [] => ['_']
  | first :: rest =>
      if Text.isLowercase first then Text.uppercase first ++ rest else '_' :: first :: rest

/-- The function that sends the operation of an action. -/
def executeFunctionName (action : String) : String :=
  "execute" ++ String.ofList (capitalize action.toList)

/-- The file that holds the handler of an action. -/
def fileName (action : String) : String :=
  action ++ ".js"

end ActionHandler.Handler
