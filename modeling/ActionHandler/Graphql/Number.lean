import ActionHandler.Graphql.LexicalError
import ActionHandler.Graphql.Name

/-! # GraphQL numbers

A number is an integer part without superfluous zeros, then at will a fraction
and an exponent. Reading one gives its characters; it may not run into a point or
the start of a name.
-/

namespace ActionHandler.Graphql

/-- The characters of a number, part by part; a part that is not written is empty. -/
structure NumberText where
  sign : List Char
  integer : List Char
  fraction : List Char
  exponent : List Char

namespace NumberText

/-- The whole text of a number. -/
def chars (number : NumberText) : List Char :=
  number.sign ++ number.integer ++ number.fraction ++ number.exponent

/-- Whether a number has neither fraction nor exponent. -/
def isInteger (number : NumberText) : Bool :=
  number.fraction.isEmpty && number.exponent.isEmpty

end NumberText

/-- The digits that a text starts with, of which there must be one, and the rest. -/
def readDigits (text : List Char) : Except LexicalError (List Char × List Char) :=
  match text.takeWhile Char.isDigit with
  | [] => .error (.digitExpected text.head?)
  | digits => .ok (digits, text.dropWhile Char.isDigit)

/-- The minus sign that a text may start with, and the rest. -/
def readSign : List Char → List Char × List Char
  | '-' :: rest => (['-'], rest)
  | text => ([], text)

/-- The integer part of a number and the rest. A leading zero stands alone. -/
def readInteger : List Char → Except LexicalError (List Char × List Char)
  | '0' :: digit :: rest =>
      if digit.isDigit then .error (.digitAfterZero digit) else .ok (['0'], digit :: rest)
  | text => readDigits text

/-- The fraction that a text may start with, and the rest. -/
def readFraction : List Char → Except LexicalError (List Char × List Char)
  | '.' :: rest => (readDigits rest).map fun (digits, rest) => ('.' :: digits, rest)
  | text => .ok ([], text)

/-- The sign that an exponent may have, and the rest. -/
def readExponentSign : List Char → List Char × List Char
  | '+' :: rest => (['+'], rest)
  | '-' :: rest => (['-'], rest)
  | text => ([], text)

/-- The exponent that a text may start with, and the rest. -/
def readExponent : List Char → Except LexicalError (List Char × List Char)
  | [] => .ok ([], [])
  | char :: rest =>
      if char = 'e' ∨ char = 'E' then
        let (sign, rest) := readExponentSign rest
        (readDigits rest).map fun (digits, rest) => (char :: sign ++ digits, rest)
      else .ok ([], char :: rest)

/-- Reads the number that a text starts with. -/
def readNumber (text : List Char) : Except LexicalError NumberText := do
  let (sign, text) := readSign text
  let (integer, text) ← readInteger text
  let (fraction, text) ← readFraction text
  let (exponent, text) ← readExponent text
  match text with
  | [] => pure ⟨sign, integer, fraction, exponent⟩
  | char :: _ =>
      if char = '.' ∨ isNameStart char then throw (.digitExpected (some char))
      else pure ⟨sign, integer, fraction, exponent⟩

end ActionHandler.Graphql
