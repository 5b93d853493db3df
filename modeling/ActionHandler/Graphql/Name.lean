/-! # GraphQL names

A name is a letter or an underscore followed by letters, digits and underscores,
all of them ASCII. A `Name` carries the proof of its form, so that whatever is
found in a document under some name is known to have a well-formed one.
-/

namespace ActionHandler.Graphql

/-- Whether a character can begin a name. -/
def isNameStart (char : Char) : Bool :=
  char.isAlpha || char == '_'

/-- Whether a character can stand in a name behind its first one. -/
def isNameContinue (char : Char) : Bool :=
  char.isAlphanum || char == '_'

/-- Whether a sequence of characters has the form of a name. -/
def isNameText : List Char → Bool
  | [] => false
  | first :: rest => isNameStart first && rest.all isNameContinue

/-- A text that has the form of a name. -/
structure Name where
  text : String
  wellFormed : isNameText text.toList = true
  deriving DecidableEq

namespace Name

/-- Names are told apart by their texts. -/
theorem ext {first second : Name} (htext : first.text = second.text) : first = second := by
  cases first
  cases second
  cases htext
  rfl

/-- The longest name that starts with a given first character. -/
def read (first : Char) (hfirst : isNameStart first = true) (rest : List Char) : Name where
  text := String.ofList (first :: rest.takeWhile isNameContinue)
  wellFormed := by
    simp [isNameText, hfirst]

end Name

end ActionHandler.Graphql
