import ActionHandler.Graphql.Grammar.Value

/-! # Operations and fragments

The definitions that ask for data. Each selection set takes a level of nesting, which
it shares with the values inside it.
-/

namespace ActionHandler.Graphql.Grammar

/-- Reads the name of a fragment, which must not be the word that stands before a type
condition. A string with that text is refused in the same way. -/
def fragmentName : Reader Name := do
  match ← peek with
  | some token =>
      if token.value? = some "on" then throw (.unexpected (some token)) else name
  | none => name

/-- Reads a field, given how to read the selections under it. -/
def field (depth : Nat) (nested : Reader (List Selection)) : Reader Selection := do
  let first ← name
  let isAliased ← optional .colon
  let fieldName ← if isAliased then name else pure first
  let arguments ← arguments false depth
  let directives ← directives false depth
  let selections ← if ← isAt .braceOpen then nested else pure []
  return .field (if isAliased then some first else none) fieldName arguments directives selections

/-- Reads what follows three points: a fragment by its name, or selections under a type
condition or under none. -/
def spread (depth : Nat) (nested : Reader (List Selection)) : Reader Selection := do
  let isConditional ← optionalKeyword "on"
  match isConditional, ← peek with
  | false, some (.name _) =>
      let fragment ← fragmentName
      return .spread fragment (← directives false depth)
  | _, _ =>
      let typeCondition ← if isConditional then some <$> name else pure none
      let directives ← directives false depth
      return .inlineFragment typeCondition directives (← nested)

/-- Reads a selection, given how to read the selections under it. -/
def selection (depth : Nat) (nested : Reader (List Selection)) : Reader Selection := do
  if ← optional .spread then spread depth nested else field depth nested

/-- Reads a selection set. -/
def selectionSet : Nat → Reader (List Selection)
  | 0 => throw .tooDeep
  | depth + 1 => someBetween .braceOpen .braceClose (selection depth (selectionSet depth))

/-- Reads the definition of a variable. -/
def variableDefinition : Reader VariableDefinition := do
  let description ← description
  expect .dollar
  let variableName ← name
  expect .colon
  let type ← typeRef nestingLimit
  let defaultValue ← defaultValue
  let directives ← directives true nestingLimit
  return ⟨description, variableName, type, defaultValue, directives⟩

/-- Reads an operation that is only a selection set. -/
def shorthandQuery : Reader Operation := do
  return ⟨none, .query, none, [], [], ← selectionSet nestingLimit⟩

/-- Reads an operation of a given type behind its keyword. -/
def operation (description : Option String) (type : OperationType) : Reader Operation := do
  let operationName ← optionalName
  let variableDefinitions ← optionalBetween .parenOpen .parenClose variableDefinition
  let directives ← directives false nestingLimit
  let selections ← selectionSet nestingLimit
  return ⟨description, type, operationName, variableDefinitions, directives, selections⟩

/-- Reads a fragment behind its keyword. -/
def fragment (description : Option String) : Reader Fragment := do
  let fragmentName ← fragmentName
  expectKeyword "on"
  let typeCondition ← name
  let directives ← directives false nestingLimit
  let selections ← selectionSet nestingLimit
  return ⟨description, fragmentName, typeCondition, directives, selections⟩

end ActionHandler.Graphql.Grammar
