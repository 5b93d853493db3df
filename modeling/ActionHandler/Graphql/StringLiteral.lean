import ActionHandler.Graphql.LexicalError

/-! # GraphQL strings

A string stands between quotation marks on one line. A backslash starts an escape
sequence: a letter for a control character, four hexadecimal digits for a UTF-16
unit (two such sequences for a surrogate pair), or a code point in braces.
-/

namespace ActionHandler.Graphql

/-- What an escape sequence stands for, and its length without the backslash. -/
structure Escape where
  char : Char
  length : Nat

/-- The value of a hexadecimal digit. -/
def hexValue? (char : Char) : Option Nat :=
  if char.isDigit then some (char.toNat - '0'.toNat)
  else if 'a' ≤ char ∧ char ≤ 'f' then some (char.toNat - 'a'.toNat + 10)
  else if 'A' ≤ char ∧ char ≤ 'F' then some (char.toNat - 'A'.toNat + 10)
  else none

/-- The number that hexadecimal digits spell, most significant first. -/
def hexNumber? (digits : List Char) : Option Nat :=
  digits.foldl (fun value? digit => do pure (16 * (← value?) + (← hexValue? digit))) (some 0)

/-- The UTF-16 unit spelled by the four digits that a text starts with. -/
def hexUnit? : List Char → Option Nat
  | first :: second :: third :: fourth :: _ => hexNumber? [first, second, third, fourth]
  | _ => none

/-- The character with a given code point, if that is a scalar value. -/
def scalar? (point : Nat) : Option Char :=
  if point ≤ 0xD7FF ∨ (0xE000 ≤ point ∧ point ≤ 0x10FFFF) then some (Char.ofNat point) else none

/-- The character of a surrogate pair, whose second half follows as an escape sequence
of its own. -/
def surrogatePair? (high : Nat) : List Char → Option Char
  | '\\' :: 'u' :: rest =>
      match hexUnit? rest with
      | none => none
      | some low =>
          if 0xD800 ≤ high ∧ high ≤ 0xDBFF ∧ 0xDC00 ≤ low ∧ low ≤ 0xDFFF then
            some (Char.ofNat (0x10000 + (high - 0xD800) * 0x400 + (low - 0xDC00)))
          else none
  | _ => none

/-- Reads the digits of a four-digit escape sequence, or of two that form a pair. -/
def readUnitEscape (text : List Char) : Except LexicalError Escape :=
  let failure := .error (.invalidUnicodeEscape ('\\' :: 'u' :: text.take 4))
  match hexUnit? text with
  | none => failure
  | some unit =>
      match scalar? unit with
      | some char => .ok ⟨char, 5⟩
      | none =>
          match surrogatePair? unit (text.drop 4) with
          | some char => .ok ⟨char, 11⟩
          | none => failure

/-- Reads a code point in braces, behind the opening one. At most nine characters are
looked at, which leaves room for eight digits. -/
def readBracedEscape (text : List Char) : Except LexicalError Escape :=
  let window := text.take 9
  let digits := window.takeWhile fun char => (hexValue? char).isSome
  let behind := window.dropWhile fun char => (hexValue? char).isSome
  let failure :=
    .error (.invalidUnicodeEscape ('\\' :: 'u' :: '\x7b' :: digits ++ behind.take 1))
  match digits, behind with
  | _ :: _, '\x7d' :: _ =>
      match (hexNumber? digits).bind scalar? with
      | some char => .ok ⟨char, digits.length + 3⟩
      | none => failure
  | _, _ => failure

/-- The character that a single letter stands for behind a backslash. -/
def simpleEscape? : Char → Option Char
  | '\x22' => some '\x22'
  | '\\' => some '\\'
  | '/' => some '/'
  | 'b' => some '\x08'
  | 'f' => some '\x0c'
  | 'n' => some '\n'
  | 'r' => some '\r'
  | 't' => some '\t'
  | _ => none

/-- Reads an escape sequence behind its backslash. -/
def readEscape : List Char → Except LexicalError Escape
  | 'u' :: '\x7b' :: rest => readBracedEscape rest
  | 'u' :: rest => readUnitEscape rest
  | [] => .error (.invalidEscape ['\\'])
  | char :: _ =>
      match simpleEscape? char with
      | some escaped => .ok ⟨escaped, 1⟩
      | none => .error (.invalidEscape ['\\', char])

/-- The value of a string and the number of characters up to and with its closing
quotation mark. -/
structure StringBody where
  value : List Char
  length : Nat

/-- Counts a character that belongs to a string and adds nothing to its value. -/
def StringBody.pass (body : StringBody) : StringBody :=
  ⟨body.value, body.length + 1⟩

/-- Counts a character at which a string gets one more character of its value. -/
def StringBody.push (char : Char) (body : StringBody) : StringBody :=
  ⟨char :: body.value, body.length + 1⟩

/-- Reads a string behind its opening quotation mark; the next `skip` characters
belong to an escape sequence that is read already. -/
def readString : Nat → List Char → Except LexicalError StringBody
  | _, [] => .error .unterminatedString
  | skip + 1, _ :: rest => (readString skip rest).map .pass
  | 0, char :: rest =>
      if char = '\x22' then .ok ⟨[], 1⟩
      else if char = '\n' ∨ char = '\r' then .error .unterminatedString
      else if char = '\\' then
        match readEscape rest with
        | .error error => .error error
        | .ok escape => (readString escape.length rest).map (.push escape.char)
      else (readString 0 rest).map (.push char)

end ActionHandler.Graphql
