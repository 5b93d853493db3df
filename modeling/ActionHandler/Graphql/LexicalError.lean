import ActionHandler.Text.Quoted

/-! # Lexical errors

The ways in which the text of a document fails to be a sequence of tokens.
-/

namespace ActionHandler.Graphql

/-- Why no token could be read at some place. -/
inductive LexicalError
  /-- A character that begins no token. -/
  | unexpectedCharacter (char : Char)
  /-- An apostrophe where a string might have been meant. -/
  | apostrophe
  /-- A digit after a leading zero. -/
  | digitAfterZero (found : Char)
  /-- A number that lacks a digit, or goes on in a way that no number does; `none` is
  the end of the text. -/
  | digitExpected (found : Option Char)
  /-- A string that does not end. -/
  | unterminatedString
  /-- A backslash before a character that it cannot escape. -/
  | invalidEscape (sequence : List Char)
  /-- An escaped code point that is malformed or is no character. -/
  | invalidUnicodeEscape (sequence : List Char)
  deriving DecidableEq, Repr

/-- How a report shows a character: printable ASCII between apostrophes, others by
their code point. `none` is the end of the text. -/
def describeChar : Option Char → String
  | none => "<EOF>"
  | some char =>
      if 0x20 ≤ char.toNat ∧ char.toNat ≤ 0x7E then
        "'" ++ char.toString ++ "'"
      else
        "U+" ++ String.ofList (codePointDigits char.toNat)
where
  /-- The upper-case hexadecimal digits of a code point, at least four. -/
  codePointDigits (point : Nat) : List Char :=
    let width := if point < 0x10000 then 4 else if point < 0x100000 then 5 else 6
    (Text.Quoted.hexDigits width point).map Char.toUpper

/-- The words for a lexical error. -/
def LexicalError.message : LexicalError → String
  | .unexpectedCharacter char => "Unexpected character: " ++ describeChar (some char) ++ "."
  | .apostrophe =>
      "Unexpected single quote character ('), did you mean to use a double quote (\")?"
  | .digitAfterZero found =>
      "Invalid number, unexpected digit after 0: " ++ describeChar (some found) ++ "."
  | .digitExpected found =>
      "Invalid number, expected digit but got: " ++ describeChar found ++ "."
  | .unterminatedString => "Unterminated string."
  | .invalidEscape sequence =>
      "Invalid character escape sequence: '" ++ String.ofList sequence ++ "'."
  | .invalidUnicodeEscape sequence =>
      "Invalid Unicode escape sequence: '" ++ String.ofList sequence ++ "'."

end ActionHandler.Graphql
