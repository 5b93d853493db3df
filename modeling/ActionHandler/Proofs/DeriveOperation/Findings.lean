import ActionHandler.DeriveOperation
import ActionHandler.Proofs.FirstMatch
import ActionHandler.Proofs.Result

/-! # What definitions say about an operation

Handlers relay single operations. The root field of one is its first top-level field outside
introspection, under the key that the response has for it. Nothing else about the selections has
a say in it, so fragments and introspection fields may stand anywhere.
-/

namespace ActionHandler

open Graphql

namespace SelectedField

theorem isIntrospection_iff (field : SelectedField) :
    field.isIntrospection = true ↔ "__".toList <+: field.name.text.toList := by
  have hmarks : "__".toList = ['_', '_'] := by decide
  rw [isIntrospection, List.isPrefixOf_iff_prefix, hmarks]

end SelectedField

namespace Graphql

/-- That a selection is a field outside introspection. Its name decides, not its alias. -/
def Selection.IsPayload : Selection → Prop
  | .field _ name _ _ _ => ¬ "__".toList <+: name.text.toList
  | .spread _ _ => False
  | .inlineFragment _ _ _ => False

theorem Selection.isPayload_iff_of_field? {selection : Selection} {field : SelectedField}
    (hfield : selection.field? = some field) :
    selection.IsPayload ↔ ¬ "__".toList <+: field.name.text.toList := by
  cases selection with
  | field =>
      cases hfield
      exact Iff.rfl
  | spread | inlineFragment => cases hfield

/-- The field outside introspection that a selection is, if it is one. -/
def Selection.payload? (selection : Selection) : Option SelectedField :=
  selection.field?.filter (!·.isIntrospection)

theorem Selection.payload?_field (alias? : Option Name) (name : Name) (arguments : List Argument)
    (directives : List Directive) (selections : List Selection) :
    (field alias? name arguments directives selections).payload? =
      if (⟨alias?, name⟩ : SelectedField).isIntrospection then none else some ⟨alias?, name⟩ := by
  rw [payload?, field?, Option.filter_some]
  cases (⟨alias?, name⟩ : SelectedField).isIntrospection <;> rfl

theorem Selection.isSome_payload? (selection : Selection) :
    selection.payload?.isSome ↔ selection.IsPayload := by
  cases selection with
  | field alias? name arguments directives selections =>
      rw [payload?_field, IsPayload,
        ← SelectedField.isIntrospection_iff ⟨alias?, name⟩]
      cases (⟨alias?, name⟩ : SelectedField).isIntrospection <;> simp
  | spread | inlineFragment => simp [payload?, field?, IsPayload]

instance : DecidablePred Selection.IsPayload :=
  fun selection => decidable_of_iff _ selection.isSome_payload?

theorem Operation.rootField?_eq_findSome? (operation : Operation) :
    operation.rootField? = operation.selections.findSome? Selection.payload? := by
  rw [rootField?, ← List.head?_filter, List.filter_filterMap, List.head?_filterMap]
  rfl

end Graphql

namespace DeriveOperation

/-- What definitions say about the operation to relay. -/
inductive Finding : Document → Except Interruption DeriveOperation → Prop
  | empty : Finding [] (.error (.failure (.noRootField "the document is empty")))
  | several {definitions : Document} (hlength : 1 < definitions.length) :
      Finding definitions (.error (.failure (.unsupportedOperation
        ("expected a single operation, found " ++ toString definitions.length ++ " definitions"))))
  | noOperation {definition : Definition}
      (hother : ∀ operation, definition ≠ .operation operation) :
      Finding [definition]
        (.error (.failure (.unsupportedOperation "the definition is not an operation")))
  | noRootField {operation : Operation}
      (hnone : ∀ selection ∈ operation.selections, ¬ selection.IsPayload) :
      Finding [.operation operation] (.error (.failure
        (.noRootField "no top-level field selection outside introspection fields")))
  | found {operation : Operation} {alias? : Option Name} {name : Name}
      {arguments : List Argument} {directives : List Directive} {selections : List Selection}
      (hfirst : IsFirst Selection.IsPayload operation.selections
        (.field alias? name arguments directives selections)) :
      Finding [.operation operation] (.ok {
        rootField := (alias?.getD name).text
        variableNames := operation.variableDefinitions.map (·.name.text) })

variable {definitions : Document} {result : Except Interruption DeriveOperation}
  {first second : Operation}

theorem result_ofDocument (document : Document) :
    (ofDocument document).result = do
      let operation ← single document
      let field ← rootField? operation
      return ⟨field.responseKey.text, operation.variableNames⟩ := by
  simp [ofDocument]

theorem result_eq_of_finding (hfinding : Finding definitions result) :
    (ofDocument definitions).result = result := by
  rw [result_ofDocument]
  cases hfinding with
  | empty => rfl
  | several hlength =>
      obtain _ | ⟨first, _ | ⟨second, rest⟩⟩ := definitions
      · simp at hlength
      · simp at hlength
      · rw [single, error_bind] <;> nofun
  | @noOperation definition hother =>
      cases definition with
      | operation operation => exact absurd rfl (hother operation)
      | fragment | schema | type | directive => rfl
  | @noRootField operation hnone =>
      have hfield : operation.rootField? = none := by
        rw [Operation.rootField?_eq_findSome?,
          findSome?_eq_none_iff_forall_not Selection.isSome_payload?]
        exact hnone
      rw [single, ok_bind, rootField?, hfield, error_bind]
  | @found operation alias? name arguments directives selections hfirst =>
      have hfield : operation.rootField? = some ⟨alias?, name⟩ := by
        rw [Operation.rootField?_eq_findSome?,
          findSome?_eq_some_iff_isFirst Selection.isSome_payload?]
        refine ⟨_, hfirst, ?_⟩
        rw [Selection.payload?_field, if_neg]
        rw [SelectedField.isIntrospection_iff]
        exact hfirst.holds
      rw [single, ok_bind, rootField?, hfield]
      rfl

theorem exists_finding (definitions : Document) : ∃ result, Finding definitions result := by
  match definitions with
  | [] => exact ⟨_, .empty⟩
  | .operation operation :: [] =>
      cases hfield : operation.selections.findSome? Selection.payload? with
      | none =>
          rw [findSome?_eq_none_iff_forall_not Selection.isSome_payload?] at hfield
          exact ⟨_, .noRootField hfield⟩
      | some field =>
          rw [findSome?_eq_some_iff_isFirst Selection.isSome_payload?] at hfield
          obtain ⟨selection, hfirst, _⟩ := hfield
          cases selection with
          | field => exact ⟨_, .found hfirst⟩
          | spread | inlineFragment => exact hfirst.holds.elim
  | .fragment _ :: [] | .schema _ :: [] | .type _ :: [] | .directive _ :: [] =>
      exact ⟨_, .noOperation nofun⟩
  | _ :: _ :: _ => exact ⟨_, .several (by simp)⟩

/-- Whatever the outcome is, it comes of what the definitions say. -/
theorem finding_of_result (hresult : (ofDocument definitions).result = result) :
    Finding definitions result := by
  obtain ⟨other, hfinding⟩ := exists_finding definitions
  rwa [← hresult, result_eq_of_finding hfinding]

theorem ofDocument_operation_congr (hfield : first.rootField? = second.rootField?)
    (hnames : first.variableNames = second.variableNames) :
    ofDocument [.operation first] = ofDocument [.operation second] := by
  simp only [ofDocument, single, Traced.ofExcept_ok_bind, rootField?, hfield, hnames]

theorem rootField?_of_edited
    (hedited : Edited (¬ ·.IsPayload) (·.field? = ·.field?) first.selections second.selections) :
    first.rootField? = second.rootField? := by
  rw [Operation.rootField?_eq_findSome?, Operation.rootField?_eq_findSome?]
  refine eq_of_rel (hedited.findSome?_rel (fun selection hskipped => ?_) fun one other halike => ?_)
  · exact (answer_eq_none_iff Selection.isSome_payload? selection).mpr hskipped
  · rw [Selection.payload?, halike]
    exact rel_self (fun _ => rfl) _

/-- The outcome of looking for the operation to relay is what the definitions say about it, and
nothing else. Two operations with the same names of variables have the same outcome, records
included, when the selections of the one are made of those of the other by putting in and taking
out fragments and introspection fields, and by changing what is not a field's name or alias. -/
theorem outcome_of_definitions (definitions : Document)
    (result : Except Interruption DeriveOperation) :
    ((ofDocument definitions).result = result ↔ Finding definitions result) ∧
    ∀ first second : Operation,
      first.variableDefinitions.map (·.name.text) = second.variableDefinitions.map (·.name.text) →
      Edited (¬ ·.IsPayload) (·.field? = ·.field?) first.selections second.selections →
      ofDocument [.operation first] = ofDocument [.operation second] := by
  refine ⟨⟨finding_of_result, result_eq_of_finding⟩, ?_⟩
  intro first second hnames hedited
  exact ofDocument_operation_congr (rootField?_of_edited hedited) hnames

/-- A query for one field, and a mutation that selects a fragment and an introspection field
under another key in front of the same field. -/
theorem introspection_under_alias :
    let variableName : Name := ⟨"v", by decide⟩
    let typeName : Name := ⟨"T", by decide⟩
    let field : Name := ⟨"c", by decide⟩
    let introspection : Name := ⟨"__typename", by decide⟩
    let short : Operation := ⟨none, .query, none, [⟨none, variableName, .named typeName, none, []⟩],
      [], [.field none field [] [] []]⟩
    let long : Operation := ⟨some "text", .mutation, some typeName,
      [⟨none, variableName, .list (.named typeName), some (.int "1"), []⟩], [],
      [.spread typeName [], .field (some field) introspection [] [] [],
        .field none field [⟨variableName, .reference variableName⟩] []
          [.field none introspection [] [] []]]⟩
    ofDocument [.operation short] = ofDocument [.operation long] ∧
      Finding [.operation long] (.ok ⟨"c", ["v"]⟩) := by
  intro variableName typeName field introspection short long
  have hintrospection : ¬ (Selection.field (some field) introspection [] [] []).IsPayload := by
    decide
  have hedited : Edited (¬ ·.IsPayload) (·.field? = ·.field?) short.selections long.selections :=
    .putIn not_false <| .putIn hintrospection <| .keep rfl .nil
  have hresult : (ofDocument [.operation short]).result = .ok ⟨"c", ["v"]⟩ := by
    apply ok_of_toOption
    decide
  have hsame :=
    (outcome_of_definitions [.operation short] (.ok ⟨"c", ["v"]⟩)).2 short long rfl hedited
  refine ⟨hsame, (outcome_of_definitions _ _).1.mp ?_⟩
  rw [← hsame]
  exact hresult

end DeriveOperation

end ActionHandler
