import ActionHandler.Text.Utf8

/-! # Laws of UTF-8

The bytes of a text decode to the text. The lead byte of a character announces how many bytes
follow and where the second one must lie; the continuation bytes carry the rest of the code
point, six bits each, from the highest to the lowest.
-/

namespace ActionHandler.Text.Utf8

variable {point lowest highest value length following bits : Nat}

/-- A lead byte that two bytes are encoded with. -/
theorem ofByte?_two (hlow : 0x80 ≤ point) (hhigh : point < 0x800) :
    Lead.ofByte? (0xC0 + point / 0x40) = some ⟨1, point / 0x40, 0x80, 0xBF⟩ := by
  rw [Lead.ofByte?, if_neg (by omega), if_pos (by omega), Nat.add_sub_cancel_left]

/-- The lead byte of three bytes confines the second one, but not more than to what it is. -/
theorem ofByte?_three (hlow : 0x800 ≤ point) (hhigh : point < 0x10000)
    (hscalar : point < 0xD800 ∨ 0xDFFF < point) :
    ∃ lowest highest,
      Lead.ofByte? (0xE0 + point / 0x1000) = some ⟨2, point / 0x1000, lowest, highest⟩ ∧
        lowest ≤ 0x80 + point / 0x40 % 0x40 ∧ 0x80 + point / 0x40 % 0x40 ≤ highest := by
  rw [Lead.ofByte?, if_neg (by omega), if_neg (by omega)]
  by_cases hfirst : point / 0x1000 = 0
  · refine ⟨0xA0, 0xBF, ?_, by omega, by omega⟩
    rw [if_pos (by omega), hfirst]
  · rw [if_neg (by omega)]
    by_cases hsurrogate : point / 0x1000 = 0xD
    · refine ⟨0x80, 0x9F, ?_, by omega, by omega⟩
      rw [if_pos (by omega), hsurrogate]
    · refine ⟨0x80, 0xBF, ?_, by omega, by omega⟩
      rw [if_neg (by omega), if_pos (by omega), Nat.add_sub_cancel_left]

theorem ofByte?_four (hlow : 0x10000 ≤ point) (hhigh : point < 0x110000) :
    ∃ lowest highest,
      Lead.ofByte? (0xF0 + point / 0x40000) = some ⟨3, point / 0x40000, lowest, highest⟩ ∧
        lowest ≤ 0x80 + point / 0x1000 % 0x40 ∧ 0x80 + point / 0x1000 % 0x40 ≤ highest := by
  rw [Lead.ofByte?, if_neg (by omega), if_neg (by omega), if_neg (by omega), if_neg (by omega),
    if_neg (by omega)]
  by_cases hfirst : point / 0x40000 = 0
  · refine ⟨0x90, 0xBF, ?_, by omega, by omega⟩
    rw [if_pos (by omega), hfirst]
  · rw [if_neg (by omega)]
    by_cases hlast : point / 0x40000 = 4
    · refine ⟨0x80, 0x8F, ?_, by omega, by omega⟩
      rw [if_neg (by omega), if_pos (by omega), hlast]
    · refine ⟨0x80, 0xBF, ?_, by omega, by omega⟩
      rw [if_pos (by omega), Nat.add_sub_cancel_left]

theorem toNat_ofNat_of_lt {number : Nat} (hnumber : number < 0x100) :
    (UInt8.ofNat number).toNat = number :=
  UInt8.toNat_ofNat_of_lt' hnumber

/-- A continuation byte adds its six bits. -/
theorem readContinuation_cons (hbits : bits < 0x40) (hlow : lowest ≤ 0x80 + bits)
    (hhigh : 0x80 + bits ≤ highest) (rest : List UInt8) :
    readContinuation lowest highest value length (following + 1)
        (UInt8.ofNat (0x80 + bits) :: rest) =
      readContinuation 0x80 0xBF (value * 0x40 + bits) (length + 1) following rest := by
  rw [readContinuation, toNat_ofNat_of_lt (by omega), if_pos ⟨hlow, hhigh⟩,
    Nat.add_sub_cancel_left]

/-- A character below the first limit is one byte. -/
theorem readChar_one (hpoint : point < 0x80) (rest : List UInt8) :
    readChar (UInt8.ofNat point) rest = .ok (Char.ofNat point, 0) := by
  rw [readChar, toNat_ofNat_of_lt (by omega), if_pos hpoint]

/-- A character below the second limit is two bytes. -/
theorem readChar_two (hlow : 0x80 ≤ point) (hhigh : point < 0x800) (rest : List UInt8) :
    readChar (UInt8.ofNat (0xC0 + point / 0x40)) (UInt8.ofNat (0x80 + point % 0x40) :: rest) =
      .ok (Char.ofNat point, 1) := by
  have hsum : point / 0x40 * 0x40 + point % 0x40 = point := by omega
  rw [readChar, toNat_ofNat_of_lt (by omega), if_neg (by omega), ofByte?_two hlow hhigh]
  dsimp only
  rw [readContinuation_cons (by omega) (by omega) (by omega), readContinuation, hsum]

/-- A character below the third limit, and no surrogate, is three bytes. -/
theorem readChar_three (hlow : 0x800 ≤ point) (hhigh : point < 0x10000)
    (hscalar : point < 0xD800 ∨ 0xDFFF < point) (rest : List UInt8) :
    readChar (UInt8.ofNat (0xE0 + point / 0x1000))
        (UInt8.ofNat (0x80 + point / 0x40 % 0x40) :: UInt8.ofNat (0x80 + point % 0x40) :: rest) =
      .ok (Char.ofNat point, 2) := by
  obtain ⟨lowest, highest, hlead, hlowest, hhighest⟩ := ofByte?_three hlow hhigh hscalar
  have hsum : (point / 0x1000 * 0x40 + point / 0x40 % 0x40) * 0x40 + point % 0x40 = point := by
    omega
  rw [readChar, toNat_ofNat_of_lt (by omega), if_neg (by omega), hlead]
  dsimp only
  rw [readContinuation_cons (by omega) hlowest hhighest,
    readContinuation_cons (by omega) (by omega) (by omega), readContinuation, hsum]

/-- A character above the third limit is four bytes. -/
theorem readChar_four (hlow : 0x10000 ≤ point) (hhigh : point < 0x110000) (rest : List UInt8) :
    readChar (UInt8.ofNat (0xF0 + point / 0x40000))
        (UInt8.ofNat (0x80 + point / 0x1000 % 0x40) ::
          UInt8.ofNat (0x80 + point / 0x40 % 0x40) :: UInt8.ofNat (0x80 + point % 0x40) :: rest) =
      .ok (Char.ofNat point, 3) := by
  obtain ⟨lowest, highest, hlead, hlowest, hhighest⟩ := ofByte?_four hlow hhigh
  have hsum : ((point / 0x40000 * 0x40 + point / 0x1000 % 0x40) * 0x40 +
      point / 0x40 % 0x40) * 0x40 + point % 0x40 = point := by omega
  rw [readChar, toNat_ofNat_of_lt (by omega), if_neg (by omega), hlead]
  dsimp only
  rw [readContinuation_cons (by omega) hlowest hhighest,
    readContinuation_cons (by omega) (by omega) (by omega),
    readContinuation_cons (by omega) (by omega) (by omega), readContinuation, hsum]

/-- A character is read back from its bytes, whatever follows them. -/
theorem readChar_encodeChar (char : Char) :
    ∃ lead behind, encodeChar char = lead :: behind ∧
      ∀ rest, readChar lead (behind ++ rest) = .ok (char, behind.length) := by
  have hvalid : char.toNat < 0xD800 ∨ 0xDFFF < char.toNat ∧ char.toNat < 0x110000 := char.valid
  have hchar := Char.ofNat_toNat char
  unfold encodeChar encodePoint
  generalize char.toNat = point at hvalid hchar
  subst hchar
  split
  next hone => exact ⟨_, [], rfl, readChar_one hone⟩
  next hone =>
    split
    next htwo => exact ⟨_, [_], rfl, readChar_two (by omega) htwo⟩
    next htwo =>
      split
      next hthree =>
        exact ⟨_, [_, _], rfl, readChar_three (by omega) hthree (hvalid.imp_right (·.1))⟩
      next hthree => exact ⟨_, [_, _, _], rfl, readChar_four (by omega) (by omega)⟩

/-- The bytes that belong to a character are passed over once it has been read. -/
theorem decodeFrom_append (position : Nat) (front rest : List UInt8) :
    decodeFrom position front.length (front ++ rest) =
      decodeFrom (position + front.length) 0 rest := by
  induction front generalizing position with
  | nil => rfl
  | cons byte front ih =>
      rw [List.length_cons, List.cons_append, decodeFrom, ih]
      congr 1
      omega

/-- The bytes of a text decode to the text wherever they stand. -/
theorem decodeFrom_encode (position : Nat) (text : List Char) :
    decodeFrom position 0 (encode text) = .ok text := by
  induction text generalizing position with
  | nil => rfl
  | cons char rest ih =>
      obtain ⟨lead, behind, hbytes, hread⟩ := readChar_encodeChar char
      rw [encode, List.flatMap_cons, hbytes, List.cons_append, decodeFrom, hread]
      dsimp only
      rw [decodeFrom_append]
      have hrest := ih (position + 1 + behind.length)
      rw [encode] at hrest
      rw [hrest]
      rfl

/-- The bytes of a text decode to the text. -/
theorem decode_encode (text : List Char) : decode (encode text) = .ok text :=
  decodeFrom_encode 0 text

/-- Texts with the same bytes are the same. -/
theorem encode_inj {first second : List Char} : encode first = encode second ↔ first = second := by
  refine ⟨fun hbytes => ?_, congrArg encode⟩
  have hdecode := decode_encode first
  rw [hbytes, decode_encode] at hdecode
  exact (Except.ok.inj hdecode).symm

end ActionHandler.Text.Utf8
