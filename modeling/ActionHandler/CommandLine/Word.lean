import ActionHandler.CommandLine.Flag
import ActionHandler.Text.Digit

/-! # The words of a command line

A word is an option, a value, or the mark behind which everything is a value. A long
option may be cut short as long as it can be told from the others, and may have a value
attached with an equals sign. What is attached to a short one are more short ones.

Only a shortened option that may be any of several spoils the whole command line. What
is wrong with another word comes to light when that word is reached.
-/

namespace ActionHandler.CommandLine

open Text (RawText RawChar)

/-- A word of a command line. -/
inductive Word
  /-- A value. -/
  | value (text : RawText)
  /-- The mark behind which everything is a value. -/
  | separator
  /-- An option that takes a value, and the one that is attached to it. -/
  | setting (kind : Setting) (attached : Option RawText)
  /-- Options that take no value. -/
  | switches (kinds : List Switch)
  /-- An option with something attached that it cannot have. -/
  | faulty (error : UsageError)
  /-- A word that looks like an option and is none. -/
  | unknown (text : RawText)
  deriving DecidableEq, Repr

namespace Word

/-- How the mark behind which everything is a value is written. -/
def separatorText : String := "--"

/-- Leaves out a line feed at the end of a text. -/
def dropLastLineFeed (text : RawText) : RawText :=
  if text.getLast? = some (.char '\n') then text.dropLast else text

/-- Whether a code point is a decimal digit. -/
def isDecimalDigit : RawChar → Bool
  | .char char => Text.isDecimalDigit char
  | .surrogate _ => false

/-- Whether a text is a number behind its minus sign: digits, or digits behind a point
with or without digits before it. A line feed at the end does not count. -/
def isNumberText (text : RawText) : Bool :=
  let text := dropLastLineFeed text
  match text.dropWhile isDecimalDigit with
  | [] => !text.isEmpty
  | .char '.' :: fraction => !fraction.isEmpty && fraction.all isDecimalDigit
  | _ => false

/-- A text before and behind its first equals sign. -/
def splitEquals? (text : RawText) : Option (RawText × RawText) :=
  match text.dropWhile (· != .char '=') with
  | [] => none
  | _ :: behind => some (text.takeWhile (· != .char '='), behind)

/-- The options that a short one and the letters attached to it stand for. No letter may
be left over, and there must be one. -/
def ofLetters (first : Switch) : RawText → Except UsageError (List Switch)
  | [] => .error (.valueIgnored first "")
  | letter :: rest =>
      match Switch.ofLetter? letter, rest with
      | none, _ => .error (.valueIgnored first (letter :: rest))
      | some second, [] => .ok [first, second]
      | some second, _ :: _ => (ofLetters second rest).map (first :: ·)

/-- A short option with letters attached to it. -/
def ofCluster (first : Switch) (letters : RawText) : Word :=
  match ofLetters first letters with
  | .error error => .faulty error
  | .ok kinds => .switches kinds

/-- An option, spelled with two dashes or with one, and what is attached to it. -/
def ofFlag (isLong : Bool) : Flag → Option RawText → Word
  | .setting kind, attached => .setting kind attached
  | .switch kind, none => .switches [kind]
  | .switch kind, some attached =>
      if isLong then .faulty (.valueIgnored kind attached)
      else ofCluster kind attached

/-- The option that a text spells out. -/
def ofExact? (isLong : Bool) (text : RawText) : Option Word :=
  match Flag.ofSpelling? text with
  | some flag => some (ofFlag isLong flag none)
  | none =>
      match splitEquals? text with
      | none => none
      | some (spelling, attached) =>
          (Flag.ofSpelling? spelling).map fun flag => ofFlag isLong flag (some attached)

/-- The option that a text with two dashes is cut short from. -/
def ofShortened? (text : RawText) : Except UsageError (Option Word) :=
  let (spelling, attached) :=
    match splitEquals? text with
    | none => (text, none)
    | some (spelling, attached) => (spelling, some attached)
  match Flag.completions spelling with
  | [] => .ok none
  | [(_, flag)] => .ok (some (ofFlag true flag attached))
  | candidates => .error (.ambiguous text (candidates.map (·.1)))

/-- The word that a text is if no option can be found in it. A number and a text with a
space in it are values, in spite of a dash at the beginning. -/
def ofOther (text : RawText) : Word :=
  if isNumberText (text.drop 1) || text.contains (.char ' ') then .value text
  else .unknown text

/-- The word that a text is. -/
def ofText (text : RawText) : Except UsageError Word :=
  match text with
  | .char '-' :: second :: rest =>
      let isLong := second == .char '-'
      match ofExact? isLong text with
      | some word => .ok word
      | none =>
          if isLong then (ofShortened? text).map (·.getD (ofOther text))
          else
            match Switch.ofLetter? second with
            | some kind => .ok (ofCluster kind rest)
            | none => .ok (ofOther text)
  | _ => .ok (.value text)

/-- The words of a command line. -/
def ofTexts : List RawText → Except UsageError (List Word)
  | [] => .ok []
  | text :: rest =>
      if text = separatorText then .ok (.separator :: rest.map .value)
      else do
        let word ← ofText text
        let others ← ofTexts rest
        return word :: others

end Word

end ActionHandler.CommandLine
