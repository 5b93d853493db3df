import ActionHandler.Graphql.Grammar.Operation
import ActionHandler.Graphql.Grammar.TypeSystem

/-! # Reading documents

A definition is told by its keyword, which comes first or behind a description. A
document is one definition or more.
-/

namespace ActionHandler.Graphql

namespace Grammar

/-- What the keyword of a definition announces. -/
inductive Keyword
  | schema
  | type (kind : TypeKind)
  | directive
  | operation (type : OperationType)
  | fragment
  deriving DecidableEq, Repr

/-- The meaning of a word as the keyword of a definition. -/
def Keyword.ofText? (text : String) : Option Keyword :=
  if text = "schema" then some .schema
  else if text = "directive" then some .directive
  else if text = "fragment" then some .fragment
  else
    match TypeKind.ofKeyword? text with
    | some kind => some (.type kind)
    | none => (OperationType.ofKeyword? text).map .operation

/-- Reads a definition that starts with a keyword or with a description before it. -/
def keywordDefinition (keyword : Keyword) : Reader Definition := do
  let description ← description
  advance
  match keyword with
  | .schema => .schema <$> schemaDeclaration false description
  | .type kind => .type <$> typeDeclaration false description kind
  | .directive => .directive <$> directiveDefinition description
  | .operation type => .operation <$> operation description type
  | .fragment => .fragment <$> fragment description

/-- Reads an extension. Only schemas and types can be extended. -/
def extension : Reader Definition := do
  let found ← lookahead
  match found with
  | some (.name word) =>
      match Keyword.ofText? word.text with
      | some .schema =>
          advance
          advance
          .schema <$> schemaDeclaration true none
      | some (.type kind) =>
          advance
          advance
          .type <$> typeDeclaration true none kind
      | _ => throw (.unexpected found)
  | _ => throw (.unexpected found)

/-- Whether a token is a description. -/
def isDescription : Option Token → Bool
  | some (.string _) => true
  | some (.blockString _) => true
  | _ => false

/-- Reads a definition. -/
def definition : Reader Definition := do
  let isDescribed := isDescription (← peek)
  let found ← if isDescribed then lookahead else peek
  match found with
  | some (.punctuator .braceOpen) =>
      if isDescribed then throw .describedShorthand
      else .operation <$> shorthandQuery
  | some (.name word) =>
      match Keyword.ofText? word.text with
      | some keyword => keywordDefinition keyword
      | none =>
          if isDescribed then throw .describedNonDefinition
          else if word.text = "extend" then extension
          else throw (.unexpected found)
  | _ => throw (.unexpected found)

/-- Reads a whole document from the beginning of a stream. -/
def document (stream : TokenStream) : Reader Document := do
  settle stream
  let first ← definition
  let rest ← repeatWhile (do return (← peek).isSome) definition
  pure (first :: rest)

end Grammar

/-- Reads a text as a document. -/
def Document.ofText (text : String) : Except SyntaxError Document :=
  (Grammar.document (TokenStream.ofText text.toList)).run' .finished

end ActionHandler.Graphql
