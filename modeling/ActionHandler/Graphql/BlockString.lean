import ActionHandler.Graphql.StringLiteral
import ActionHandler.Text.LineEnding

/-! # GraphQL block strings

A block string stands between triple quotation marks and may have many lines. Its
value leaves out what only lays it out in the document: the indentation that its
lines have in common, and blank lines at its beginning and end.
-/

namespace ActionHandler.Graphql

/-- Reads the raw text of a block string behind its opening marks; the next `skip`
characters belong to a mark that is read already. Only the triple mark itself can be
escaped. -/
def readBlockString : Nat → List Char → Except LexicalError StringBody
  | _, [] => .error .unterminatedString
  | skip + 1, _ :: rest => (readBlockString skip rest).map .pass
  | 0, char :: rest =>
      if ['\x22', '\x22', '\x22'].isPrefixOf (char :: rest) then .ok ⟨[], 3⟩
      else if ['\\', '\x22', '\x22', '\x22'].isPrefixOf (char :: rest) then
        (readBlockString 3 rest).map fun body =>
          ⟨'\x22' :: '\x22' :: '\x22' :: body.value, body.length + 1⟩
      else (readBlockString 0 rest).map (.push char)

namespace BlockString

/-- Whether a character indents. -/
def isIndent (char : Char) : Bool :=
  char == ' ' || char == '\t'

/-- Whether a line has nothing but indentation. -/
def isBlank (line : List Char) : Bool :=
  line.all isIndent

/-- The indentation of a line. -/
def indentation (line : List Char) : Nat :=
  (line.takeWhile isIndent).length

/-- The least indentation of the lines that are not blank, if there are any. -/
def commonIndentation (lines : List (List Char)) : Option Nat :=
  ((lines.filter (!isBlank ·)).map indentation).min?

/-- Takes the common indentation from all lines but the first, which begins behind the
opening mark. -/
def dedent : List (List Char) → List (List Char)
  | [] => []
  | first :: rest =>
      match commonIndentation rest with
      | none => first :: rest
      | some width => first :: rest.map (·.drop width)

/-- Leaves out the blank lines at both ends. -/
def trimBlank (lines : List (List Char)) : List (List Char) :=
  ((lines.dropWhile isBlank).reverse.dropWhile isBlank).reverse

/-- The value of a block string with a given raw text. -/
def value (raw : List Char) : List Char :=
  ['\n'].intercalate (trimBlank (dedent ((Text.unifyLineEndings raw).splitOn '\n')))

end BlockString

end ActionHandler.Graphql
