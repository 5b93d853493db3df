import ActionHandler.Graphql.Token
import ActionHandler.Graphql.Number
import ActionHandler.Graphql.BlockString

/-! # The tokens of a document

A text is read as a stream of tokens that ends with the text or breaks off at the
first place where no token can be read. The error at that place matters only to a
reader of the stream who gets so far.
-/

namespace ActionHandler.Graphql

/-- The tokens of a text, in order. -/
inductive TokenStream
  /-- The end of the text. -/
  | finished
  /-- A place where no token can be read. -/
  | broken (error : LexicalError)
  /-- A token and what follows it. -/
  | token (first : Token) (rest : TokenStream)

/-- A token and the number of characters that it takes. -/
structure Lexeme where
  token : Token
  length : Nat

namespace Lexeme

/-- Reads a number, which a text starts with. -/
def number (text : List Char) : Except LexicalError Lexeme :=
  (readNumber text).map fun number =>
    let chars := number.chars
    let text := String.ofList chars
    ⟨if number.isInteger then .int text else .float text, chars.length⟩

/-- Reads a string or a block string behind its first quotation mark. -/
def string : List Char → Except LexicalError Lexeme
  | '\x22' :: '\x22' :: rest =>
      (readBlockString 0 rest).map fun body =>
        ⟨.blockString (String.ofList (BlockString.value body.value)), body.length + 3⟩
  | text =>
      (readString 0 text).map fun body =>
        ⟨.string (String.ofList body.value), body.length + 1⟩

/-- Reads the token that starts with a given character. -/
def read (first : Char) (rest : List Char) : Except LexicalError Lexeme :=
  match Punctuator.ofChar? first with
  | some mark => .ok ⟨.punctuator mark, 1⟩
  | none =>
      if hstart : isNameStart first = true then
        .ok ⟨.name (Name.read first hstart rest), (rest.takeWhile isNameContinue).length + 1⟩
      else if first.isDigit ∨ first = '-' then number (first :: rest)
      else if first = '\x22' then string rest
      else if ['.', '.', '.'].isPrefixOf (first :: rest) then .ok ⟨.punctuator .spread, 3⟩
      else if first = '\x27' then .error .apostrophe
      else .error (.unexpectedCharacter first)

end Lexeme

/-- Whether a character may stand between tokens without meaning. -/
def isIgnored (char : Char) : Bool :=
  char == ' ' || char == '\t' || char == ',' || char == '\n' || char == '\r' || char == '\ufeff'

/-- Whether a character ends a comment. -/
def isLineEnd (char : Char) : Bool :=
  char == '\n' || char == '\r'

namespace TokenStream

/-- The tokens of a text behind its next `skip` characters, which belong to a token or a
comment that is read already. -/
def scan : Nat → List Char → TokenStream
  | _, [] => .finished
  | skip + 1, _ :: rest => scan skip rest
  | 0, char :: rest =>
      if isIgnored char then scan 0 rest
      else if char = '#' then scan (rest.takeWhile (!isLineEnd ·)).length rest
      else
        match Lexeme.read char rest with
        | .error error => .broken error
        | .ok lexeme => .token lexeme.token (scan (lexeme.length - 1) rest)

/-- The tokens of a text. -/
def ofText (text : List Char) : TokenStream :=
  scan 0 text

/-- Skipping characters is the same as leaving them out. -/
theorem scan_eq_scan_drop (skip : Nat) (text : List Char) :
    scan skip text = scan 0 (text.drop skip) := by
  induction skip generalizing text with
  | zero => rfl
  | succ skip ih =>
      cases text with
      | nil => simp [scan]
      | cons char rest => simpa [scan] using ih rest

end TokenStream

end ActionHandler.Graphql
