/-! # UTF-8

Text as bytes, and bytes as text. Decoding is strict: it accepts the shortest
form of a scalar value and nothing else, and stops at the first sequence that is
not one, saying where that sequence starts, how much of it was good, and what is
wrong with it.
-/

namespace ActionHandler.Text.Utf8

/-- The bytes of a code point. -/
def encodePoint (point : Nat) : List UInt8 :=
  if point < 0x80 then [UInt8.ofNat point]
  else if point < 0x800 then
    [UInt8.ofNat (0xC0 + point / 0x40), UInt8.ofNat (0x80 + point % 0x40)]
  else if point < 0x10000 then
    [UInt8.ofNat (0xE0 + point / 0x1000), UInt8.ofNat (0x80 + point / 0x40 % 0x40),
      UInt8.ofNat (0x80 + point % 0x40)]
  else
    [UInt8.ofNat (0xF0 + point / 0x40000), UInt8.ofNat (0x80 + point / 0x1000 % 0x40),
      UInt8.ofNat (0x80 + point / 0x40 % 0x40), UInt8.ofNat (0x80 + point % 0x40)]

/-- The bytes of one character. -/
def encodeChar (char : Char) : List UInt8 :=
  encodePoint char.toNat

/-- The bytes of a text. -/
def encode (text : List Char) : List UInt8 :=
  text.flatMap encodeChar

/-- What is wrong with a byte sequence. -/
inductive Flaw
  | invalidStart
  | invalidContinuation
  | unexpectedEnd
  deriving DecidableEq, Repr

/-- The words for a flaw. -/
def Flaw.text : Flaw → String
  | .invalidStart => "invalid start byte"
  | .invalidContinuation => "invalid continuation byte"
  | .unexpectedEnd => "unexpected end of data"

/-- The first bad sequence of an undecodable text: its lead byte, its position, the
number of bytes up to the flaw, and the flaw. -/
structure DecodeError where
  lead : UInt8
  position : Nat
  length : Nat
  flaw : Flaw
  deriving DecidableEq, Repr

/-- What the lead byte of a longer sequence announces: how many bytes follow, the
bits it contributes, and the range that the second byte is confined to. -/
structure Lead where
  following : Nat
  bits : Nat
  lowest : Nat
  highest : Nat

/-- The meaning of a lead byte from 0x80 on. The second byte after 0xE0 and 0xF0 is
confined so that no value has a longer form than it needs, after 0xED so that no
surrogate is encoded, and after 0xF4 so that no value is too large. -/
def Lead.ofByte? (byte : Nat) : Option Lead :=
  if byte < 0xC2 then none
  else if byte < 0xE0 then some ⟨1, byte - 0xC0, 0x80, 0xBF⟩
  else if byte = 0xE0 then some ⟨2, 0, 0xA0, 0xBF⟩
  else if byte = 0xED then some ⟨2, 0xD, 0x80, 0x9F⟩
  else if byte < 0xF0 then some ⟨2, byte - 0xE0, 0x80, 0xBF⟩
  else if byte = 0xF0 then some ⟨3, 0, 0x90, 0xBF⟩
  else if byte < 0xF4 then some ⟨3, byte - 0xF0, 0x80, 0xBF⟩
  else if byte = 0xF4 then some ⟨3, 4, 0x80, 0x8F⟩
  else none

/-- Reads `following` continuation bytes, the first of them between `lowest` and
`highest`, onto the bits in `value`. A flaw comes with the length of the sequence
before it, of which `length` bytes are read. -/
def readContinuation (lowest highest value length : Nat) :
    Nat → List UInt8 → Except (Nat × Flaw) Nat
  | 0, _ => .ok value
  | _ + 1, [] => .error (length, .unexpectedEnd)
  | following + 1, byte :: rest =>
      if lowest ≤ byte.toNat ∧ byte.toNat ≤ highest then
        readContinuation 0x80 0xBF (value * 0x40 + (byte.toNat - 0x80)) (length + 1)
          following rest
      else .error (length, .invalidContinuation)

/-- Reads one character from its lead byte and the bytes behind it, and says how
many of those belong to it. -/
def readChar (byte : UInt8) (rest : List UInt8) : Except (Nat × Flaw) (Char × Nat) :=
  if byte.toNat < 0x80 then .ok (Char.ofNat byte.toNat, 0)
  else
    match Lead.ofByte? byte.toNat with
    | none => .error (1, .invalidStart)
    | some lead =>
        match readContinuation lead.lowest lead.highest lead.bits 1 lead.following rest with
        | .error flaw => .error flaw
        | .ok value => .ok (Char.ofNat value, lead.following)

/-- Decodes bytes that begin at `position`; the first `skip` of them belong to a
character that is read already. -/
def decodeFrom (position : Nat) : Nat → List UInt8 → Except DecodeError (List Char)
  | _, [] => .ok []
  | skip + 1, _ :: rest => decodeFrom (position + 1) skip rest
  | 0, byte :: rest =>
      match readChar byte rest with
      | .error (length, flaw) => .error ⟨byte, position, length, flaw⟩
      | .ok (char, following) => (decodeFrom (position + 1) following rest).map (char :: ·)

/-- Decodes a whole text. -/
def decode (bytes : List UInt8) : Except DecodeError (List Char) :=
  decodeFrom 0 0 bytes

end ActionHandler.Text.Utf8
