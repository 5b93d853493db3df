import ActionHandler.Text.Replace

/-! # Literals of a handler

The pieces of code that a handler is filled with: an object pattern for the arguments,
an object of the variables, an object for the response body, and the escaped text of an
operation.
-/

namespace ActionHandler.Handler

/-- The object pattern that takes the arguments out of a request. -/
def destructurePattern (arguments : List String) : String :=
  "\x7b" ++ String.intercalate ", " arguments ++ "\x7d"

/-- The object of the variables of an operation, each of which stands for the argument
of the same name. -/
def variablesLiteral : List String → String
  | [] => "\x7b\x7d"
  | names => "\x7b " ++ String.intercalate ", " names ++ " \x7d"

/-- The body of a response before anything is put into it: each field is empty text. -/
def outputLiteral : List String → String
  | [] => "\x7b\x7d"
  | fields =>
      "\x7b\n      " ++ String.intercalate ",\n      " (fields.map (· ++ ": \"\"")) ++ "\n    \x7d"

/-- Escapes text that is to stand in a template literal, first backslashes, then
backquotes, then the marks that start a substitution. -/
def escapeTemplateChars (text : List Char) : List Char :=
  Text.replaceAll ['$', '\x7b'] ['\\', '$', '\x7b']
    (Text.replaceAll ['\x60'] ['\\', '\x60']
      (Text.replaceAll ['\\'] ['\\', '\\'] text))

/-- Escapes a text that is to stand in a template literal. -/
def escapeTemplateLiteral (text : String) : String :=
  String.ofList (escapeTemplateChars text.toList)

end ActionHandler.Handler
