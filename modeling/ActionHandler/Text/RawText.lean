import ActionHandler.Text.Utf8

/-! # Raw texts

Text that reaches the program from outside of any file: the words of a command line, the
values of environment variables, and what is made of them. Besides characters it can hold
surrogates that stand alone. Some of them stand for a byte that is no part of a character,
and are that byte again in the name of a file; in a file or on an output that takes text
only, none of them can be encoded.
-/

namespace ActionHandler.Text

/-- A surrogate, by its distance from the first one. -/
abbrev Surrogate := Fin 0x800

namespace Surrogate

/-- The code point of a surrogate. -/
def code (surrogate : Surrogate) : Nat :=
  0xD800 + surrogate.val

/-- The byte that a surrogate stands for. -/
def byte? (surrogate : Surrogate) : Option UInt8 :=
  if 0xDC80 ≤ surrogate.code ∧ surrogate.code ≤ 0xDCFF then
    some (UInt8.ofNat (surrogate.code - 0xDC00))
  else none

end Surrogate

/-- A code point of a raw text: a character, or a surrogate that stands alone. -/
inductive RawChar
  | char (value : Char)
  | surrogate (value : Surrogate)
  deriving DecidableEq, Repr

namespace RawChar

/-- The character that a code point is. -/
def char? : RawChar → Option Char
  | .char value => some value
  | .surrogate _ => none

/-- Whether a code point is a surrogate. -/
def isSurrogate : RawChar → Bool
  | .char _ => false
  | .surrogate _ => true

/-- The bytes of a code point. A surrogate is the byte that it stands for; one that stands
for none has the three bytes of its code point. -/
def bytes : RawChar → List UInt8
  | .char value => Utf8.encodeChar value
  | .surrogate value =>
      match value.byte? with
      | some byte => [byte]
      | none => Utf8.encodePoint value.code

end RawChar

/-- Text with surrogates that stand alone. -/
abbrev RawText := List RawChar

/-- Why a raw text cannot be encoded: the first surrogate that stands in the way, where it
is, and how many surrogates follow each other there. -/
structure EncodeError where
  first : Surrogate
  position : Nat
  length : Nat
  deriving DecidableEq, Repr

namespace RawText

/-- A text without surrogates, as raw text. -/
@[coe] def ofString (text : String) : RawText :=
  text.toList.map .char

instance : Coe String RawText := ⟨ofString⟩

/-- The text that a raw text without surrogates is. -/
def text? (text : RawText) : Option String :=
  (text.mapM RawChar.char?).map String.ofList

/-- The bytes of a raw text. -/
def bytes (text : RawText) : List UInt8 :=
  text.flatMap RawChar.bytes

/-- What stands in the way of encoding a text that begins at `position`, if only some
surrogates are allowed. -/
def encodeErrorFrom? (allowed : Surrogate → Bool) (position : Nat) : RawText → Option EncodeError
  | [] => none
  | .char _ :: rest => encodeErrorFrom? allowed (position + 1) rest
  | .surrogate value :: rest =>
      if allowed value then encodeErrorFrom? allowed (position + 1) rest
      else some ⟨value, position, (rest.takeWhile RawChar.isSurrogate).length + 1⟩

/-- What stands in the way of encoding a text. -/
def encodeError? (allowed : Surrogate → Bool) (text : RawText) : Option EncodeError :=
  text.encodeErrorFrom? allowed 0

/-- Encodes a text that must not have any surrogates. -/
def encode (text : RawText) : Except EncodeError (List UInt8) :=
  match text.encodeError? fun _ => false with
  | some error => .error error
  | none => .ok text.bytes

end RawText

/-- The kinds of text that strings are, or can be read as. -/
class Textual (τ : Type) where
  /-- A string as text of a kind. -/
  ofString : String → τ

instance : Textual String := ⟨id⟩

instance : Textual RawText := ⟨RawText.ofString⟩

@[simp] theorem ofString_string (text : String) : (Textual.ofString text : String) = text := rfl

/-- Texts of a kind, put together. -/
def joined {τ : Type} [Append τ] [Textual τ] (texts : List τ) : τ :=
  texts.foldl (· ++ ·) (Textual.ofString "")

end ActionHandler.Text
