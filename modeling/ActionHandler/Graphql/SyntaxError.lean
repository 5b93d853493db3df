import ActionHandler.Graphql.LexicalError
import ActionHandler.Graphql.Token

/-! # Errors of grammar

The ways in which a text fails to be a document. A token that is `none` is the end of
the text.
-/

namespace ActionHandler.Graphql

/-- Why a text is not a document. -/
inductive SyntaxError
  /-- The text is not a sequence of tokens. -/
  | lexical (error : LexicalError)
  /-- A token of a certain kind is missing. -/
  | expected (kind : TokenKind) (found : Option Token)
  /-- A certain keyword is missing. -/
  | expectedKeyword (keyword : String) (found : Option Token)
  /-- A token that fits nowhere. -/
  | unexpected (found : Option Token)
  /-- A variable where values must be constant. -/
  | variableInConstant (name : Name)
  /-- A word that names a value already and cannot name another. -/
  | reservedEnumValue (found : Token)
  /-- A description before an operation that is only a selection set. -/
  | describedShorthand
  /-- A description before something that is not a definition. -/
  | describedNonDefinition
  /-- More levels of nesting than are accepted. -/
  | tooDeep
  deriving DecidableEq

namespace SyntaxError

/-- What is wrong, in words. -/
def detail : SyntaxError → String
  | .lexical error => error.message
  | .expected kind found =>
      "Expected " ++ kind.describe ++ ", found " ++ describeToken found ++ "."
  | .expectedKeyword keyword found =>
      "Expected '" ++ keyword ++ "', found " ++ describeToken found ++ "."
  | .unexpected found => "Unexpected " ++ describeToken found ++ "."
  | .variableInConstant name =>
      "Unexpected variable '$" ++ name.text ++ "' in constant value."
  | .reservedEnumValue found =>
      found.describe ++ " is reserved and cannot be used for an enum value."
  | .describedShorthand =>
      "Unexpected description, descriptions are not supported on shorthand queries."
  | .describedNonDefinition =>
      "Unexpected description, only GraphQL definitions support descriptions."
  | .tooDeep => "Document is nested too deeply. Parsing aborted."

/-- The words for an error of grammar. -/
def message (error : SyntaxError) : String :=
  "Syntax Error: " ++ error.detail

end SyntaxError

end ActionHandler.Graphql
