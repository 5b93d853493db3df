import ActionHandler.Handler.Literal
import ActionHandler.Proofs.Graphql.Name
import ActionHandler.Proofs.Text.Delimited

/-! # Reading literals back

The literals of a handler tell the names that they are made of, and the object pattern for
the arguments can be told from the text around it on either side: no name has a brace or a
comma in it.
-/

namespace ActionHandler.Handler

open Graphql Text

variable {first second : List String}

/-- The names of an object pattern, with what stands between them. -/
def namesBetween (names : List String) : List Char :=
  [',', ' '].intercalate (names.map String.toList)

theorem toList_destructurePattern (names : List String) :
    (destructurePattern names).toList = '\x7b' :: namesBetween names ++ ['\x7d'] := by
  rw [destructurePattern, String.toList_append, String.toList_append, String.toList_intercalate]
  rfl

theorem not_mem_namesBetween {names : List String} (hnames : ∀ name ∈ names, IsName name)
    (mark : Char) (hmark : isNameContinue mark = false) (hseparator : mark ∉ [',', ' ']) :
    mark ∉ namesBetween names := by
  rw [namesBetween, mem_intercalate_iff hseparator]
  rintro ⟨word, hword, hmem⟩
  obtain ⟨name, hname, rfl⟩ := List.mem_map.mp hword
  exact (hnames name hname).not_mem hmark hmem

theorem toList_variablesLiteral {names : List String} (hnames : names ≠ []) :
    (variablesLiteral names).toList = '\x7b' :: ([' '] ++ (namesBetween names ++ [' '])) ++
      ['\x7d'] := by
  obtain ⟨name, others, rfl⟩ := List.exists_cons_of_ne_nil hnames
  simp [variablesLiteral, namesBetween, String.toList_intercalate]

theorem lineFeed_not_mem_destructurePattern {names : List String}
    (hnames : ∀ name ∈ names, IsName name) : '\n' ∉ (destructurePattern names).toList := by
  have hbetween := not_mem_namesBetween hnames '\n' (by decide) (by decide)
  simp [toList_destructurePattern, hbetween]

theorem lineFeed_not_mem_variablesLiteral {names : List String}
    (hnames : ∀ name ∈ names, IsName name) : '\n' ∉ (variablesLiteral names).toList := by
  by_cases hnil : names = []
  · rw [hnil]
    decide
  · have hbetween := not_mem_namesBetween hnames '\n' (by decide) (by decide)
    simp [toList_variablesLiteral hnil, hbetween]

theorem map_toList_inj (heq : first.map String.toList = second.map String.toList) :
    first = second :=
  List.map_injective_iff.mpr (fun _ _ => String.toList_inj.mp) heq

/-- Names can be told from the text that lists them. -/
theorem namesBetween_inj (hfirst : ∀ name ∈ first, IsName name)
    (hsecond : ∀ name ∈ second, IsName name) (heq : namesBetween first = namesBetween second) :
    first = second := by
  have hwords : ∀ {names : List String}, (∀ name ∈ names, IsName name) →
      ∀ word ∈ names.map String.toList, word ≠ [] ∧ ',' ∉ word := by
    intro names hnames word hword
    obtain ⟨name, hname, rfl⟩ := List.mem_map.mp hword
    exact ⟨(hnames name hname).toList_ne_nil, (hnames name hname).not_mem (by decide)⟩
  exact map_toList_inj (intercalate_inj (hwords hfirst) (hwords hsecond) heq)

/-- An object pattern is read forwards up to its closing brace. -/
theorem destructurePattern_append_inj {rest rest' : List Char}
    (hfirst : ∀ name ∈ first, IsName name) (hsecond : ∀ name ∈ second, IsName name)
    (heq : (destructurePattern first).toList ++ rest =
      (destructurePattern second).toList ++ rest') : first = second ∧ rest = rest' := by
  simp only [toList_destructurePattern, List.cons_append, List.append_assoc,
    List.nil_append] at heq
  obtain ⟨hnames, hrest⟩ := append_mark_inj
    (not_mem_namesBetween hfirst '\x7d' (by decide) (by decide))
    (not_mem_namesBetween hsecond '\x7d' (by decide) (by decide)) (List.cons.inj heq).2
  exact ⟨namesBetween_inj hfirst hsecond hnames, hrest⟩

/-- An object pattern is read backwards up to its opening brace. -/
theorem append_destructurePattern_inj {front front' : List Char}
    (hfirst : ∀ name ∈ first, IsName name) (hsecond : ∀ name ∈ second, IsName name)
    (heq : front ++ (destructurePattern first).toList =
      front' ++ (destructurePattern second).toList) : front = front' ∧ first = second := by
  simp only [toList_destructurePattern, List.cons_append] at heq
  have hbody : ∀ {names : List String}, (∀ name ∈ names, IsName name) →
      '\x7b' ∉ namesBetween names ++ ['\x7d'] := by
    intro names hnames
    have hbetween := not_mem_namesBetween hnames '\x7b' (by decide) (by decide)
    simpa using hbetween
  obtain ⟨hfront, hnames⟩ := append_mark_inj_right (hbody hfirst) (hbody hsecond) heq
  exact ⟨hfront, namesBetween_inj hfirst hsecond (List.append_cancel_right hnames)⟩

/-- The members of the body of a response, without what stands between them. -/
def members (fields : List String) : List String :=
  fields.map (· ++ ": \"\"")

theorem members_inj (heq : members first = members second) : first = second := by
  apply List.map_injective_iff.mpr ?_ heq
  intro field other hmember
  have hlist := congrArg String.toList hmember
  rw [String.toList_append, String.toList_append] at hlist
  exact String.toList_inj.mp (List.append_cancel_right hlist)

theorem toList_outputLiteral {fields : List String} (hfields : fields ≠ []) :
    (outputLiteral fields).toList =
      "\x7b\n      ".toList ++
        ",\n      ".toList.intercalate ((members fields).map String.toList) ++
          "\n    \x7d".toList := by
  cases fields with
  | nil => exact absurd rfl hfields
  | cons field rest =>
      have hbody : outputLiteral (field :: rest) = "\x7b\n      " ++
          String.intercalate ",\n      " (members (field :: rest)) ++ "\n    \x7d" := rfl
      rw [hbody, String.toList_append, String.toList_append, String.toList_intercalate]

/-- Fields can be told from the literal of the output. -/
theorem outputLiteral_inj (hfirst : ∀ name ∈ first, IsName name)
    (hsecond : ∀ name ∈ second, IsName name) (heq : outputLiteral first = outputLiteral second) :
    first = second := by
  have hwords : ∀ {fields : List String}, (∀ name ∈ fields, IsName name) →
      ∀ word ∈ (members fields).map String.toList, word ≠ [] ∧ ',' ∉ word := by
    intro fields hfields word hword
    obtain ⟨member, hmember, rfl⟩ := List.mem_map.mp hword
    obtain ⟨field, hfield, rfl⟩ := List.mem_map.mp hmember
    have hcomma : ',' ∉ field.toList := (hfields field hfield).not_mem (by decide)
    refine ⟨by simp, ?_⟩
    simp [hcomma]
  have hlist := congrArg String.toList heq
  by_cases hnil : first = []
  · by_cases hnil' : second = []
    · rw [hnil, hnil']
    -- An empty body closes at once, where another one has a line feed.
    · rw [hnil, toList_outputLiteral hnil'] at hlist
      simp [outputLiteral] at hlist
  · by_cases hnil' : second = []
    · rw [hnil', toList_outputLiteral hnil] at hlist
      simp [outputLiteral] at hlist
    · rw [toList_outputLiteral hnil, toList_outputLiteral hnil', List.append_assoc,
        List.append_assoc] at hlist
      have hmembers := List.append_cancel_right (List.append_cancel_left hlist)
      exact members_inj (map_toList_inj
        (intercalate_inj (hwords hfirst) (hwords hsecond) hmembers))

end ActionHandler.Handler
