import ActionHandler.Graphql.Name

/-! # GraphQL tokens

The words of a GraphQL document, the kinds they fall into, and the way each is
named in a report.
-/

namespace ActionHandler.Graphql

/-- The marks of the grammar. -/
inductive Punctuator
  | bang
  | dollar
  | ampersand
  | parenOpen
  | parenClose
  | spread
  | colon
  | equals
  | at
  | bracketOpen
  | bracketClose
  | braceOpen
  | bar
  | braceClose
  deriving DecidableEq, Repr

namespace Punctuator

/-- How a mark is written. -/
def text : Punctuator → String
  | .bang => "!"
  | .dollar => "$"
  | .ampersand => "&"
  | .parenOpen => "("
  | .parenClose => ")"
  | .spread => "..."
  | .colon => ":"
  | .equals => "="
  | .at => "@"
  | .bracketOpen => "["
  | .bracketClose => "]"
  | .braceOpen => "\x7b"
  | .bar => "|"
  | .braceClose => "\x7d"

/-- The mark that is written with one given character. -/
def ofChar? : Char → Option Punctuator
  | '!' => some .bang
  | '$' => some .dollar
  | '&' => some .ampersand
  | '(' => some .parenOpen
  | ')' => some .parenClose
  | ':' => some .colon
  | '=' => some .equals
  | '@' => some .at
  | '[' => some .bracketOpen
  | ']' => some .bracketClose
  | '\x7b' => some .braceOpen
  | '|' => some .bar
  | '\x7d' => some .braceClose
  | _ => none

end Punctuator

/-- The kinds of tokens. The end of a document counts as one, since the grammar may
expect it or come upon it. -/
inductive TokenKind
  | punctuator (mark : Punctuator)
  | name
  | int
  | float
  | string
  | blockString
  | endOfDocument
  deriving DecidableEq, Repr

/-- How a report names a kind of token. -/
def TokenKind.describe : TokenKind → String
  | .punctuator mark => "'" ++ mark.text ++ "'"
  | .name => "Name"
  | .int => "Int"
  | .float => "Float"
  | .string => "String"
  | .blockString => "BlockString"
  | .endOfDocument => "<EOF>"

/-- A token. Numbers keep their source text, strings the text they stand for. -/
inductive Token
  | punctuator (mark : Punctuator)
  | name (word : Name)
  | int (text : String)
  | float (text : String)
  | string (value : String)
  | blockString (value : String)
  deriving DecidableEq

namespace Token

/-- The kind of a token. -/
def kind : Token → TokenKind
  | .punctuator mark => .punctuator mark
  | .name _ => .name
  | .int _ => .int
  | .float _ => .float
  | .string _ => .string
  | .blockString _ => .blockString

/-- The text that a token carries; marks carry none. -/
def value? : Token → Option String
  | .punctuator _ => none
  | .name word => some word.text
  | .int text => some text
  | .float text => some text
  | .string value => some value
  | .blockString value => some value

/-- How a report names a token: its kind and, if it has one, its value. -/
def describe (token : Token) : String :=
  match token.value? with
  | none => token.kind.describe
  | some value => token.kind.describe ++ " '" ++ value ++ "'"

end Token

/-- How a report names what stands at a place in a document, `none` being its end. -/
def describeToken : Option Token → String
  | none => TokenKind.endOfDocument.describe
  | some token => token.describe

end ActionHandler.Graphql
