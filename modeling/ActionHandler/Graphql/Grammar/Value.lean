import ActionHandler.Graphql.Document
import ActionHandler.Graphql.Grammar.Reader

/-! # Values, directives and type references

The parts that operations and type declarations have in common. `depth` is the
number of levels of nesting that are left; a list or an object of values takes one,
and so does a list type.
-/

namespace ActionHandler.Graphql.Grammar

/-- Reads a variable behind its dollar sign. Constant values have none. -/
def variableReference (isConstant : Bool) : Reader Value := do
  if isConstant then
    match ← peek with
    | some (.name word) => throw (.variableInConstant word)
    | _ => throw (.unexpected (some (.punctuator .dollar)))
  else
    return .reference (← name)

/-- Reads a value, given how to read one that has other values inside. -/
def valueWith (isConstant : Bool) (list object : Reader Value) : Reader Value := do
  match ← peek with
  | some (.punctuator .bracketOpen) => list
  | some (.punctuator .braceOpen) => object
  | some (.punctuator .dollar) => advance; variableReference isConstant
  | some (.int text) => advance; pure (.int text)
  | some (.float text) => advance; pure (.float text)
  | some (.string value) => advance; pure (.string value)
  | some (.blockString value) => advance; pure (.string value)
  | some (.name word) => advance; pure (.word word)
  | found => throw (.unexpected found)

/-- Reads a field of an object value. -/
def objectField (item : Reader Value) : Reader (Name × Value) := do
  let fieldName ← name
  expect .colon
  return (fieldName, ← item)

/-- Reads a value. -/
def value (isConstant : Bool) : Nat → Reader Value
  | 0 => valueWith isConstant (throw .tooDeep) (throw .tooDeep)
  | depth + 1 =>
      valueWith isConstant
        (.list <$> anyBetween .bracketOpen .bracketClose (value isConstant depth))
        (.object <$> anyBetween .braceOpen .braceClose (objectField (value isConstant depth)))

/-- Reads an argument. -/
def argument (isConstant : Bool) (depth : Nat) : Reader Argument := do
  let argumentName ← name
  expect .colon
  return ⟨argumentName, ← value isConstant depth⟩

/-- Reads arguments in parentheses, if there are any. -/
def arguments (isConstant : Bool) (depth : Nat) : Reader (List Argument) :=
  optionalBetween .parenOpen .parenClose (argument isConstant depth)

/-- Reads a directive. -/
def directive (isConstant : Bool) (depth : Nat) : Reader Directive := do
  expect .at
  let directiveName ← name
  return ⟨directiveName, ← arguments isConstant depth⟩

/-- Reads directives, as many as there are. -/
def directives (isConstant : Bool) (depth : Nat) : Reader (List Directive) :=
  repeatWhile (isAt .at) (directive isConstant depth)

/-- Reads a type reference, given how to read one inside brackets. -/
def typeRefWith (item : Reader TypeRef) : Reader TypeRef := do
  let inner ←
    if ← optional .bracketOpen then
      let inner ← item
      expect .bracketClose
      pure (.list inner)
    else .named <$> name
  if ← optional .bang then pure (.nonNull inner) else pure inner

/-- Reads a type reference. -/
def typeRef : Nat → Reader TypeRef
  | 0 => typeRefWith (throw .tooDeep)
  | depth + 1 => typeRefWith (typeRef depth)

/-- Reads a constant value behind an equals sign, if there is one. -/
def defaultValue : Reader (Option Value) := do
  if ← optional .equals then return some (← value true nestingLimit) else pure none

end ActionHandler.Graphql.Grammar
