import ActionHandler.Graphql.Name

/-! # GraphQL documents

A document is a list of definitions: operations and fragments, which ask for data,
and the type system, which says what can be asked for. A declaration of a type may
define it or extend one that is defined elsewhere.
-/

namespace ActionHandler.Graphql

/-- A reference to a type. -/
inductive TypeRef
  | named (name : Name)
  | list (item : TypeRef)
  | nonNull (inner : TypeRef)
  deriving DecidableEq

/-- The name inside all list and non-null markers. -/
def TypeRef.innermost : TypeRef → Name
  | .named name => name
  | .list item => item.innermost
  | .nonNull inner => inner.innermost

/-- A value. Numbers keep their source text; `true`, `false` and `null` are words like
those of enumerations. -/
inductive Value
  | reference (variableName : Name)
  | int (text : String)
  | float (text : String)
  | string (value : String)
  | word (name : Name)
  | list (items : List Value)
  | object (fields : List (Name × Value))

/-- A named argument. -/
structure Argument where
  name : Name
  value : Value

/-- A directive with its arguments. -/
structure Directive where
  name : Name
  arguments : List Argument

/-- A selection: a field, the fields of a fragment, or selections under a type
condition. -/
inductive Selection
  | field (alias? : Option Name) (name : Name) (arguments : List Argument)
      (directives : List Directive) (selections : List Selection)
  | spread (fragmentName : Name) (directives : List Directive)
  | inlineFragment (typeCondition : Option Name) (directives : List Directive)
      (selections : List Selection)

/-- The kinds of operations. -/
inductive OperationType
  | query
  | mutation
  | subscription
  deriving DecidableEq, Repr

/-- The kind of operation with a given keyword. -/
def OperationType.ofKeyword? (keyword : String) : Option OperationType :=
  if keyword = "query" then some .query
  else if keyword = "mutation" then some .mutation
  else if keyword = "subscription" then some .subscription
  else none

/-- A variable that an operation declares. -/
structure VariableDefinition where
  description : Option String
  name : Name
  type : TypeRef
  defaultValue : Option Value
  directives : List Directive

/-- An operation. -/
structure Operation where
  description : Option String
  type : OperationType
  name : Option Name
  variableDefinitions : List VariableDefinition
  directives : List Directive
  selections : List Selection

/-- A fragment. -/
structure Fragment where
  description : Option String
  name : Name
  typeCondition : Name
  directives : List Directive
  selections : List Selection

/-- An input value: an argument of a field or a directive, or a field of an input type. -/
structure InputValue where
  description : Option String
  name : Name
  type : TypeRef
  defaultValue : Option Value
  directives : List Directive

/-- A field of an object type or an interface. -/
structure FieldDefinition where
  description : Option String
  name : Name
  arguments : List InputValue
  type : TypeRef
  directives : List Directive

/-- A value of an enumeration. -/
structure EnumValue where
  description : Option String
  name : Name
  directives : List Directive

/-- What a declaration says about a type, by the kind of the type. -/
inductive TypeBody
  | scalar
  | object (interfaces : List Name) (fields : List FieldDefinition)
  | interface (interfaces : List Name) (fields : List FieldDefinition)
  | union (members : List Name)
  | enum (values : List EnumValue)
  | input (fields : List InputValue)

/-- Whether a body says nothing. -/
def TypeBody.isEmpty : TypeBody → Bool
  | .scalar => true
  | .object interfaces fields => interfaces.isEmpty && fields.isEmpty
  | .interface interfaces fields => interfaces.isEmpty && fields.isEmpty
  | .union members => members.isEmpty
  | .enum values => values.isEmpty
  | .input fields => fields.isEmpty

/-- The definition of a type, or an extension of one. -/
structure TypeDeclaration where
  isExtension : Bool
  description : Option String
  name : Name
  directives : List Directive
  body : TypeBody

/-- The type that serves as the root of one kind of operation. -/
structure RootType where
  operation : OperationType
  type : Name

/-- The definition of a schema, or an extension of it. -/
structure SchemaDeclaration where
  isExtension : Bool
  description : Option String
  directives : List Directive
  roots : List RootType

/-- The definition of a directive. -/
structure DirectiveDefinition where
  description : Option String
  name : Name
  arguments : List InputValue
  isRepeatable : Bool
  locations : List Name

/-- A definition of a document. -/
inductive Definition
  | operation (definition : Operation)
  | fragment (definition : Fragment)
  | schema (declaration : SchemaDeclaration)
  | type (declaration : TypeDeclaration)
  | directive (definition : DirectiveDefinition)

/-- A document, whose definitions are in source order. -/
abbrev Document := List Definition

/-- The name of a definition. Schemas have none, operations may have one. -/
def Definition.name? : Definition → Option Name
  | .operation definition => definition.name
  | .fragment definition => some definition.name
  | .schema _ => none
  | .type declaration => some declaration.name
  | .directive definition => some definition.name

end ActionHandler.Graphql
