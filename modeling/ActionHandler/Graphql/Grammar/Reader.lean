import ActionHandler.Graphql.SyntaxError
import ActionHandler.Graphql.TokenStream

/-! # Reading tokens

A reader takes tokens from a stream, one at a time, and decides by the first one
where to go. Moving past a token looks at the next place of the text, so that a
lexical error there is met before anything is asked of the token behind it.
-/

namespace ActionHandler.Graphql.Grammar

/-- A step that takes tokens from a stream or fails. -/
abbrev Reader := StateT TokenStream (Except SyntaxError)

/-- The levels of nesting that a document may have. -/
def nestingLimit : Nat := 200

/-- The next token, which stays where it is; `none` at the end. -/
def peek : Reader (Option Token) := do
  match ← get with
  | .token first _ => pure (some first)
  | _ => pure none

/-- Goes on with a stream, unless no token can be read at its beginning. -/
def settle : TokenStream → Reader Unit
  | .broken error => throw (.lexical error)
  | stream => set stream

/-- Moves past the next token. -/
def advance : Reader Unit := do
  match ← get with
  | .token _ rest => settle rest
  | _ => pure ()

/-- The token behind the next one; both stay where they are. -/
def lookahead : Reader (Option Token) := do
  match ← get with
  | .token _ (.token second _) => pure (some second)
  | .token _ (.broken error) => throw (.lexical error)
  | _ => pure none

/-- Fails because of the next token. -/
def unexpected {α : Type} : Reader α := do
  throw (.unexpected (← peek))

/-- Whether the next token is a given mark. -/
def isAt (mark : Punctuator) : Reader Bool := do
  return (← peek) == some (.punctuator mark)

/-- Takes a mark. -/
def expect (mark : Punctuator) : Reader Unit := do
  let found ← peek
  if found = some (.punctuator mark) then advance
  else throw (.expected (.punctuator mark) found)

/-- Takes a mark if it comes next, and says whether it did. -/
def optional (mark : Punctuator) : Reader Bool := do
  if ← isAt mark then
    advance
    pure true
  else pure false

/-- Takes a name. -/
def name : Reader Name := do
  match ← peek with
  | some (.name word) => advance; pure word
  | found => throw (.expected .name found)

/-- Takes a name if one comes next. -/
def optionalName : Reader (Option Name) := do
  match ← peek with
  | some (.name word) => advance; pure (some word)
  | _ => pure none

/-- Whether a token is a name with a given text. -/
def isKeyword (keyword : String) : Option Token → Bool
  | some (.name word) => word.text == keyword
  | _ => false

/-- Takes a keyword. -/
def expectKeyword (keyword : String) : Reader Unit := do
  let found ← peek
  if isKeyword keyword found then advance
  else throw (.expectedKeyword keyword found)

/-- Takes a keyword if it comes next, and says whether it did. -/
def optionalKeyword (keyword : String) : Reader Bool := do
  if isKeyword keyword (← peek) then
    advance
    pure true
  else pure false

variable {α : Type}

/-- Reads items as long as there are more of them, going along a stream that is as long
as the one they are read from. -/
def repeatAlong (more : Reader Bool) (item : Reader α) : TokenStream → Reader (List α)
  | .token _ rest => do
      if ← more then
        let first ← item
        let others ← repeatAlong more item rest
        pure (first :: others)
      else pure []
  | _ => do
      if ← more then return [← item] else pure []

/-- Reads items as long as there are more of them. Each takes a token or fails, so there
are never more items than tokens. -/
def repeatWhile (more : Reader Bool) (item : Reader α) : Reader (List α) := do
  repeatAlong more item (← get)

/-- Reads items up to a closing mark. -/
def untilClosed (close : Punctuator) (item : Reader α) : Reader (List α) :=
  repeatWhile (do return !(← optional close)) item

/-- Reads items between two marks. -/
def anyBetween (openMark close : Punctuator) (item : Reader α) : Reader (List α) := do
  expect openMark
  untilClosed close item

/-- Reads one item or more between two marks. -/
def someBetween (openMark close : Punctuator) (item : Reader α) : Reader (List α) := do
  expect openMark
  let first ← item
  let rest ← untilClosed close item
  pure (first :: rest)

/-- Reads one item or more between two marks, or nothing if the opening mark does not
come next. -/
def optionalBetween (openMark close : Punctuator) (item : Reader α) : Reader (List α) := do
  if ← isAt openMark then someBetween openMark close item else pure []

/-- Reads one item or more with a mark between each two of them; the mark may also stand
before the first. -/
def separatedBy (mark : Punctuator) (item : Reader α) : Reader (List α) := do
  let _ ← optional mark
  let first ← item
  let rest ← repeatWhile (optional mark) item
  pure (first :: rest)

/-- Takes a description if one comes next. -/
def description : Reader (Option String) := do
  match ← peek with
  | some (.string value) => advance; pure (some value)
  | some (.blockString value) => advance; pure (some value)
  | _ => pure none

end ActionHandler.Graphql.Grammar
