import ActionHandler.Proofs.Handler.Rendering
import ActionHandler.Proofs.Text.Lines

/-! # Lines of a template

A template has lines as a text has, with holes in them. Texts without line ends in the holes
fill it line by line. So what stands on a line of the filled template can be told from the
template: a line whose own characters differ from what is looked for is no such line, whatever
is put into its holes.
-/

namespace ActionHandler.Handler

open Text

/-- A place in a template: a character of its own, or a hole. -/
inductive Place
  | own (char : Char)
  | hole (name : String)
  deriving DecidableEq, Repr

namespace Place

/-- What a place becomes. -/
def fill (text : String → String) : Place → List Char
  | .own char => [char]
  | .hole name => (text name).toList

/-- Whether places in a row differ from the beginning of a text, whatever is put into holes. -/
def differ : List Char → List Place → Bool
  | [], _ => false
  | _ :: _, [] => true
  | char :: rest, .own other :: places => other != char || differ rest places
  | _ :: _, .hole _ :: _ => false

end Place

namespace Template

variable {text : String → String} {template : Template} {front back : List Char}

/-- The places of a template. -/
def places (template : Template) : List Place :=
  template.flatMap fun
    | .text content => content.toList.map .own
    | .hole name => [.hole name]

theorem places_cons_lines (lines : List String) (rest : Template) :
    places (.lines lines :: rest) =
      lines.flatMap (fun line => line.toList.map .own ++ [.own '\n']) ++ places rest := by
  simp [places, Piece.lines, toList_unlines, List.map_flatMap]

theorem places_cons_text (content : String) (rest : Template) :
    places (.text content :: rest) = content.toList.map .own ++ places rest :=
  rfl

theorem places_cons_hole (name : String) (rest : Template) :
    places (.hole name :: rest) = .hole name :: places rest :=
  rfl

/-- The lines of a template. -/
def lines (template : Template) : List (List Place) :=
  template.places.splitOn (.own '\n')

theorem toList_fill (text : String → String) (template : Template) :
    (template.fill text).toList = template.places.flatMap (Place.fill text) := by
  induction template with
  | nil => rfl
  | cons piece rest ih =>
      have hplaces : places (piece :: rest) = places [piece] ++ places rest := by simp [places]
      rw [hplaces, List.flatMap_append, ← ih]
      cases piece with
      | text content => simp [fill, places, List.flatMap_map, Place.fill]
      | hole name => simp [fill, places, Place.fill]

theorem mem_holes_of_mem_places {name : String} (hname : .hole name ∈ template.places) :
    name ∈ template.holes := by
  induction template with
  | nil => cases hname
  | cons piece rest ih =>
      have hplaces : places (piece :: rest) = places [piece] ++ places rest := by simp [places]
      rw [hplaces, List.mem_append] at hname
      cases piece with
      | text content => exact ih (hname.resolve_left (by simp [places]))
      | hole other =>
          rcases hname with hsame | hrest
          · have hother : name = other := by simpa [places] using hsame
            exact hother ▸ List.mem_cons_self
          · exact List.mem_cons_of_mem other (ih hrest)

/-- A line is filled as a part of its template is. -/
def fillLine (text : String → String) (line : List Place) : List Char :=
  line.flatMap (Place.fill text)

/-- Without line ends in its holes, a template is filled line by line. -/
theorem splitOn_fill (hholes : ∀ name ∈ template.holes, '\n' ∉ (text name).toList) :
    (template.fill text).toList.splitOn '\n' = template.lines.map (fillLine text) := by
  have hplaces : ∀ name, .hole name ∈ template.places → '\n' ∉ (text name).toList :=
    fun name hname => hholes name (mem_holes_of_mem_places hname)
  rw [toList_fill, lines]
  generalize template.places = places at hplaces ⊢
  induction places with
  | nil => rfl
  | cons place rest ih =>
      have hrest := ih fun name hname => hplaces name (List.mem_cons_of_mem place hname)
      rw [List.flatMap_cons, List.splitOn_cons_eq_if_modifyHead]
      cases place with
      | own char =>
          rw [Place.fill, List.singleton_append, List.splitOn_cons_eq_if_modifyHead, hrest]
          by_cases hchar : char = '\n'
          · simp [hchar, fillLine]
          · simp [hchar]
            cases rest.splitOn (.own '\n') <;> simp [fillLine, Place.fill]
      | hole name =>
          rw [Place.fill, splitOn_append_of_not_mem (hplaces name List.mem_cons_self), hrest]
          simp
          cases rest.splitOn (.own '\n') <;> simp [fillLine, Place.fill]

theorem not_isPrefix_of_differ (fill : Place → List Char)
    (hfill : ∀ char, fill (.own char) = [char]) {line : List Place}
    (hdiffer : Place.differ front line = true) : ¬ front <+: line.flatMap fill := by
  fun_induction Place.differ front line with
  | case1 => cases hdiffer
  | case2 char rest => simp
  | case3 char rest other places ih =>
      rw [List.flatMap_cons, hfill, List.singleton_append, List.cons_prefix_cons]
      rintro ⟨rfl, hrest⟩
      exact ih (by simpa using hdiffer) hrest
  | case4 => cases hdiffer

/-- Whether nothing stands between two texts on a line, whatever is put into its holes. -/
def misses (front back : List Char) (line : List Place) : Bool :=
  Place.differ front line || Place.differ back.reverse line.reverse

theorem between?_of_misses {line : List Place} (hmisses : misses front back line = true) :
    between? front back (fillLine text line) = none := by
  rw [Option.eq_none_iff_forall_ne_some]
  intro word hword
  rw [between?_eq_some_iff] at hword
  rw [misses, Bool.or_eq_true] at hmisses
  rcases hmisses with hfront | hback
  · apply not_isPrefix_of_differ (Place.fill text) (fun _ => rfl) hfront
    rw [← fillLine, hword]
    exact List.prefix_append _ _
  · apply not_isPrefix_of_differ (List.reverse ∘ Place.fill text) (fun _ => rfl) hback
    rw [← List.reverse_flatMap, ← fillLine, hword]
    simp

/-- That a template tells what stands between two texts: one of its lines is pieces between
these texts, and no other line has something between them. The first line does not count,
since other text may stand in front of it. -/
def Tells (template : Template) (front : String) (pieces : Template) (back : String) : Prop :=
  places (.text front :: pieces ++ [.text back]) ∈ template.lines.tail ∧
    ∀ line ∈ template.lines.tail, line = places (.text front :: pieces ++ [.text back]) ∨
      misses front.toList back.toList line = true

instance (template : Template) (front : String) (pieces : Template) (back : String) :
    Decidable (template.Tells front pieces back) := by
  unfold Tells
  infer_instance

/-- What a template tells is found in the filled template, whatever stands in front of it. -/
theorem Tells.lastBetween?_fill {front back : String} {pieces : Template}
    (htells : template.Tells front pieces back)
    (hholes : ∀ name ∈ template.holes, '\n' ∉ (text name).toList) (earlier : List Char) :
    lastBetween? front.toList back.toList (earlier ++ (template.fill text).toList) =
      some (pieces.fill text).toList := by
  obtain ⟨hline, hothers⟩ := htells
  obtain ⟨first, others, hlines⟩ : ∃ first others, template.lines = first :: others :=
    List.exists_cons_of_ne_nil (List.splitOn_ne_nil _ _)
  have hsplit := splitOn_fill hholes
  rw [hlines, List.map_cons] at hsplit
  rw [hlines, List.tail_cons] at hline hothers
  obtain ⟨front', _, hfront⟩ := splitOn_append hsplit earlier
  have hword : between? front.toList back.toList
      (fillLine text (places (.text front :: pieces ++ [.text back]))) =
        some (pieces.fill text).toList := by
    rw [between?_eq_some_iff, fillLine, ← toList_fill]
    simp [fill]
  have hfound : (others.map (fillLine text)).reverse.findSome?
      (between? front.toList back.toList) = some (pieces.fill text).toList := by
    apply findSome?_of_mem (List.mem_reverse.mpr (List.mem_map_of_mem hline)) hword
    intro filled hfilled
    obtain ⟨line, hmem, rfl⟩ := List.mem_map.mp (List.mem_reverse.mp hfilled)
    rcases hothers line hmem with rfl | hmisses
    · exact .inr hword
    · exact .inl (between?_of_misses hmisses)
  rw [lastBetween?, hfront, List.reverse_append, List.findSome?_append, hfound]
  rfl

/-! ## How the lines of a template begin -/

/-- Whether a line may begin with a character where places in a row become text. Nothing is known
of a hole that begins a line. -/
def mayStartLine (char : Char) : Bool → List Place → Bool
  | _, [] => false
  | atStart, .own other :: rest => atStart && other == char || mayStartLine char (other == '\n') rest
  | atStart, .hole _ :: rest => atStart || mayStartLine char false rest

/-- If the texts for its holes begin no lines with a character, the lines of a filled template
begin with it only where those of the template do. -/
theorem not_mem_lineStarts_fill {char : Char} {atStart : Bool} {places : List Place}
    (hplaces : mayStartLine char atStart places = false)
    (hholes : ∀ name, .hole name ∈ places → GoesOn char (text name).toList) :
    char ∉ lineStarts atStart (places.flatMap (Place.fill text)) := by
  fun_induction mayStartLine char atStart places with
  | case1 => exact List.not_mem_nil
  | case2 atStart other rest ih =>
      obtain ⟨hother, hrest⟩ : (atStart = true → other ≠ char) ∧
          mayStartLine char (other == '\n') rest = false := by
        simpa [not_and] using hplaces
      have hlater := ih hrest fun name hname => hholes name (List.mem_cons_of_mem _ hname)
      rw [List.flatMap_cons, Place.fill, List.singleton_append, lineStarts, List.mem_append, not_or]
      refine ⟨?_, hlater⟩
      split
      next hstart => simpa using Ne.symm (hother hstart)
      next => exact List.not_mem_nil
  | case3 atStart name rest ih =>
      obtain ⟨rfl, hrest⟩ : atStart = false ∧ mayStartLine char false rest = false := by
        simpa using hplaces
      have hlater := ih hrest fun name hname => hholes name (List.mem_cons_of_mem _ hname)
      have hname := hholes name List.mem_cons_self
      rw [List.flatMap_cons, Place.fill, lineStarts_append, hname.ends, List.mem_append, not_or]
      exact ⟨hname.starts, hlater⟩

end Template

end ActionHandler.Handler
