import ActionHandler.Graphql.Grammar.Value

/-! # Definitions of the type system

Types, schemas and directives, and the extensions of the first two. An extension may
leave out each part but has to add something.
-/

namespace ActionHandler.Graphql.Grammar

/-- The kinds of types that can be declared. -/
inductive TypeKind
  | scalar
  | object
  | interface
  | union
  | enum
  | input
  deriving DecidableEq, Repr

/-- The kind of type with a given keyword. -/
def TypeKind.ofKeyword? (keyword : String) : Option TypeKind :=
  if keyword = "scalar" then some .scalar
  else if keyword = "type" then some .object
  else if keyword = "interface" then some .interface
  else if keyword = "union" then some .union
  else if keyword = "enum" then some .enum
  else if keyword = "input" then some .input
  else none

/-- Reads an input value. -/
def inputValue : Reader InputValue := do
  let description ← description
  let valueName ← name
  expect .colon
  let type ← typeRef nestingLimit
  let defaultValue ← defaultValue
  let directives ← directives true nestingLimit
  return ⟨description, valueName, type, defaultValue, directives⟩

/-- Reads the arguments that a field or a directive declares, if there are any. -/
def argumentDefinitions : Reader (List InputValue) :=
  optionalBetween .parenOpen .parenClose inputValue

/-- Reads the definition of a field. -/
def fieldDefinition : Reader FieldDefinition := do
  let description ← description
  let fieldName ← name
  let arguments ← argumentDefinitions
  expect .colon
  let type ← typeRef nestingLimit
  let directives ← directives true nestingLimit
  return ⟨description, fieldName, arguments, type, directives⟩

/-- Fails if the next token has the text of a word that stands for a value already. A
string with such a text is refused in the same way. -/
def refuseReserved : Reader Unit := do
  match ← peek with
  | some token =>
      if token.value? ∈ [some "true", some "false", some "null"] then
        throw (.reservedEnumValue token)
  | none => pure ()

/-- Reads a value of an enumeration. -/
def enumValue : Reader EnumValue := do
  let description ← description
  refuseReserved
  let valueName ← name
  let directives ← directives true nestingLimit
  return ⟨description, valueName, directives⟩

/-- Reads the interfaces that a type implements, if there are any. -/
def interfaces : Reader (List Name) := do
  if ← optionalKeyword "implements" then separatedBy .ampersand name else pure []

/-- Reads what a declaration says about a type behind its directives. The interfaces of
an object type or an interface are read before. -/
def typeBody (interfaces : List Name) : TypeKind → Reader TypeBody
  | .scalar => pure .scalar
  | .object => .object interfaces <$> optionalBetween .braceOpen .braceClose fieldDefinition
  | .interface => .interface interfaces <$> optionalBetween .braceOpen .braceClose fieldDefinition
  | .union => do
      if ← optional .equals then .union <$> separatedBy .bar name else pure (.union [])
  | .enum => .enum <$> optionalBetween .braceOpen .braceClose enumValue
  | .input => .input <$> optionalBetween .braceOpen .braceClose inputValue

/-- Reads the declaration of a type behind its keyword. -/
def typeDeclaration (isExtension : Bool) (description : Option String) (kind : TypeKind) :
    Reader TypeDeclaration := do
  let typeName ← name
  let interfaces ← if kind = .object ∨ kind = .interface then interfaces else pure []
  let directives ← directives true nestingLimit
  let body ← typeBody interfaces kind
  if isExtension && directives.isEmpty && body.isEmpty then unexpected
  return ⟨isExtension, description, typeName, directives, body⟩

/-- Reads the root type of one kind of operation. -/
def rootType : Reader RootType := do
  let keyword ← name
  match OperationType.ofKeyword? keyword.text with
  | none => throw (.unexpected (some (.name keyword)))
  | some operation =>
      expect .colon
      return ⟨operation, ← name⟩

/-- Reads the declaration of a schema behind its keyword. -/
def schemaDeclaration (isExtension : Bool) (description : Option String) :
    Reader SchemaDeclaration := do
  let directives ← directives true nestingLimit
  let roots ←
    if isExtension then optionalBetween .braceOpen .braceClose rootType
    else someBetween .braceOpen .braceClose rootType
  if isExtension && directives.isEmpty && roots.isEmpty then unexpected
  return ⟨isExtension, description, directives, roots⟩

/-- The places where a directive may be allowed to stand. -/
def directiveLocations : List String := [
  "QUERY", "MUTATION", "SUBSCRIPTION", "FIELD", "FRAGMENT_DEFINITION", "FRAGMENT_SPREAD",
  "INLINE_FRAGMENT", "VARIABLE_DEFINITION", "SCHEMA", "SCALAR", "OBJECT", "FIELD_DEFINITION",
  "ARGUMENT_DEFINITION", "INTERFACE", "UNION", "ENUM", "ENUM_VALUE", "INPUT_OBJECT",
  "INPUT_FIELD_DEFINITION", "DIRECTIVE_DEFINITION"]

/-- Reads a place where a directive may stand. -/
def directiveLocation : Reader Name := do
  let location ← name
  if location.text ∈ directiveLocations then pure location
  else throw (.unexpected (some (.name location)))

/-- Reads the definition of a directive behind its keyword. -/
def directiveDefinition (description : Option String) : Reader DirectiveDefinition := do
  expect .at
  let directiveName ← name
  let arguments ← argumentDefinitions
  let isRepeatable ← optionalKeyword "repeatable"
  expectKeyword "on"
  let locations ← separatedBy .bar directiveLocation
  return ⟨description, directiveName, arguments, isRepeatable, locations⟩

end ActionHandler.Graphql.Grammar
