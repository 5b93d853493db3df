import ActionHandler.Text.Casing

/-! # Laws of letter case

The upper-case form of a lower-case character is never empty and never begins with an
underscore: no form in the tables does, and the underscore is not a lower-case character.
-/

namespace ActionHandler.Text

theorem isLowercase_underscore : isLowercase '_' = false := by
  decide +kernel

/-- Only the underscore has a form that begins with it. -/
theorem uppercasePoints_eq_cons {point : Nat} (hpoint : point ≠ 0x5F) :
    ∃ first rest, uppercasePoints point = first :: rest ∧ first ≠ 0x5F := by
  have hexpansions : uppercaseExpansions.all (fun entry =>
      match entry.2 with
      | [] => false
      | first :: _ => first != 0x5F) = true := by decide +kernel
  -- A shift leads to the underscore from one code point, which must not be in its stretch.
  have hshifts : uppercaseShifts.all (fun entry =>
      !entry.1.contains (0x5F - entry.2 : Int).toNat) = true := by decide +kernel
  unfold uppercasePoints
  split
  next points hlookup =>
    obtain ⟨front, behind, htable, _⟩ := List.lookup_eq_some_iff.mp hlookup
    have hmem : (point, points) ∈ uppercaseExpansions := by simp [htable]
    have hentry := List.all_eq_true.mp hexpansions _ hmem
    cases points with
    | nil => cases hentry
    | cons first rest => exact ⟨first, rest, rfl, by simpa using hentry⟩
  next =>
    split
    next stretch shift hfind =>
      have hentry := List.all_eq_true.mp hshifts _ (List.mem_of_find?_eq_some hfind)
      have hcontains := List.find?_some hfind
      refine ⟨_, [], rfl, ?_⟩
      intro hshifted
      obtain rfl : point = (0x5F - shift : Int).toNat := by omega
      simp only [hcontains] at hentry
      cases hentry
    next => exact ⟨point, [], rfl, hpoint⟩

/-- Only one code point is the underscore. -/
theorem ofNat_ne_underscore {point : Nat} (hpoint : point ≠ 0x5F) : Char.ofNat point ≠ '_' := by
  intro heq
  by_cases hvalid : point.isValidChar
  · have hchar : Char.ofNat point = Char.ofNatAux point hvalid := dif_pos hvalid
    have hnat : (Char.ofNatAux point hvalid).toNat = '_'.toNat :=
      congrArg Char.toNat (hchar.symm.trans heq)
    exact hpoint hnat
  · have hchar : Char.ofNat point = '\x00' := dif_neg hvalid
    exact absurd (hchar.symm.trans heq) (by decide)

/-- The upper-case form of a lower-case character has a first character, and this is not an
underscore. -/
theorem uppercase_eq_cons {char : Char} (hlower : isLowercase char = true) :
    ∃ first rest, uppercase char = first :: rest ∧ first ≠ '_' := by
  have hpoint : char.toNat ≠ 0x5F := by
    intro heq
    obtain rfl : char = '_' := by rw [← Char.ofNat_toNat char, heq]
    rw [isLowercase_underscore] at hlower
    cases hlower
  obtain ⟨first, rest, hpoints, hfirst⟩ := uppercasePoints_eq_cons hpoint
  refine ⟨Char.ofNat first, rest.map Char.ofNat, ?_, ofNat_ne_underscore hfirst⟩
  rw [uppercase, hpoints, List.map_cons]

end ActionHandler.Text
