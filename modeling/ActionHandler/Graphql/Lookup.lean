import ActionHandler.Graphql.Document

/-! # Looking up declarations

Types are looked up by exact name among the type declarations of a document,
definitions and extensions alike, and the first one counts. Operations, fragments,
schemas and directives have names of their own that do not matter here.
-/

namespace ActionHandler.Graphql

/-- A member of a type: a field that takes arguments, or a field of an input type. -/
inductive Member
  | field (definition : FieldDefinition)
  | input (definition : InputValue)

namespace Member

/-- The name of a member. -/
def name : Member → Name
  | .field definition => definition.name
  | .input definition => definition.name

/-- The type of a member. -/
def type : Member → TypeRef
  | .field definition => definition.type
  | .input definition => definition.type

/-- The arguments that a member declares; fields of input types cannot have any. -/
def arguments? : Member → Option (List InputValue)
  | .field definition => some definition.arguments
  | .input _ => none

end Member

/-- The members that a body lists. Kinds of types that have no members list none at
all, which is not the same as an empty list. -/
def TypeBody.members? : TypeBody → Option (List Member)
  | .object _ fields => some (fields.map .field)
  | .interface _ fields => some (fields.map .field)
  | .input fields => some (fields.map .input)
  | .scalar => none
  | .union _ => none
  | .enum _ => none

namespace TypeDeclaration

/-- The members that a declaration lists. -/
def members? (declaration : TypeDeclaration) : Option (List Member) :=
  declaration.body.members?

/-- The first member with a given name. -/
def findMember? (declaration : TypeDeclaration) (name : String) : Option Member :=
  (declaration.members?.getD []).find? (·.name.text == name)

end TypeDeclaration

/-- The type declaration that a definition is, if it is one. -/
def Definition.declaration? : Definition → Option TypeDeclaration
  | .type declaration => some declaration
  | _ => none

namespace Document

/-- The type declarations with a given name, in source order. -/
def typesNamed (document : Document) (name : String) : List TypeDeclaration :=
  (document.filterMap Definition.declaration?).filter (·.name.text == name)

/-- The first type declaration with a given name. -/
def findType? (document : Document) (name : String) : Option TypeDeclaration :=
  (document.typesNamed name).head?

end Document

end ActionHandler.Graphql
