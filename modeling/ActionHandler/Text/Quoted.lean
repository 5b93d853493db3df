import ActionHandler.Text.Printable
import ActionHandler.Text.RawText

/-! # Quoted text

Text in a report stands between two delimiters, on one line, and in a form that
can be told from every other text: the delimiter and the backslash are escaped,
and a character that is not printable is written by its code point. So is a
surrogate that stands alone.
-/

namespace ActionHandler.Text.Quoted

/-- The lower-case hexadecimal digit of a number below sixteen. -/
def hexDigit (value : Nat) : Char :=
  if value < 10 then Char.ofNat (0x30 + value) else Char.ofNat (0x57 + value)

/-- The last `width` hexadecimal digits of a number. -/
def hexDigits : Nat → Nat → List Char
  | 0, _ => []
  | width + 1, value => hexDigits width (value / 16) ++ [hexDigit (value % 16)]

/-- Text is delimited by apostrophes, unless it has one and has no quotation mark. -/
def delimiter (text : RawText) : Char :=
  if .char '\x27' ∈ text ∧ .char '\x22' ∉ text then '\x22' else '\x27'

/-- A surrogate behind a backslash, by its code point. -/
def escapeSurrogate (value : Surrogate) : List Char :=
  '\\' :: 'u' :: hexDigits 4 value.code

/-- The form of one character inside quoted text: itself, a backslash and a letter,
or its code point in the least of the widths two, four and eight. -/
def escapeChar (delimiter char : Char) : List Char :=
  if char = delimiter ∨ char = '\\' then ['\\', char]
  else if char = '\n' then ['\\', 'n']
  else if char = '\r' then ['\\', 'r']
  else if char = '\t' then ['\\', 't']
  else if isPrintable char then [char]
  else if char.toNat < 0x100 then '\\' :: 'x' :: hexDigits 2 char.toNat
  else if char.toNat < 0x10000 then '\\' :: 'u' :: hexDigits 4 char.toNat
  else '\\' :: 'U' :: hexDigits 8 char.toNat

/-- The form of one code point inside quoted text. -/
def escape (delimiter : Char) : RawChar → List Char
  | .char char => escapeChar delimiter char
  | .surrogate value => escapeSurrogate value

/-- The quoted form of a sequence of code points. -/
def encode (text : RawText) : List Char :=
  let mark := delimiter text
  mark :: text.flatMap (escape mark) ++ [mark]

/-- The quoted form of a text. -/
def quote (text : RawText) : String :=
  String.ofList (encode text)

/-- A text as the error output shows it: surrogates are written by their code points. -/
def shown (text : RawText) : String :=
  String.ofList <| text.flatMap fun
    | .char char => [char]
    | .surrogate value => escapeSurrogate value

end ActionHandler.Text.Quoted
