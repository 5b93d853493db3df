import ActionHandler.Proofs.Generation.Names
import ActionHandler.Proofs.Generation.Precedence

/-! # Generations for raw texts

An action that is no string is found in no schema. With an endpoint variable that is a string, a
generation of raw text gives the handler of the generation of strings; with any other one, the
handler cannot be encoded if it has the endpoint variable in it.
-/

namespace ActionHandler

open Handler
open Text (RawText Textual LawfulTextual)

variable {τ : Type} [Append τ] [Textual τ] {action : RawText} {schema : String}
  {operation : Option String}

/-- The artifact with the same texts, as raw texts. -/
def Artifact.raw (artifact : Artifact) : Artifact RawText :=
  ⟨artifact.name, artifact.content⟩

namespace Generation

/-- The failures of a generation for an action that is no string. -/
inductive Missed (action : RawText) : Failure → Prop
  | unparsable (detail : String) : Missed action (.unparsable "actions SDL" detail)
  | noMutationType : Missed action .noMutationType
  | noAction : Missed action (.noAction action)

/-- For an action that is no string, only the schema can tell how a generation fails. -/
theorem result_generate_of_text?_eq_none (haction : action.text? = none) (schema : String)
    (operation : Option String) (endpointVariable : τ) :
    (generate action schema operation endpointVariable).result =
      readDocument schemaLabel schema >>= fun document =>
        .error <| .failure <|
          match document.findType? mutationTypeName with
          | none => .noMutationType
          | some _ => .noAction action := by
  cases hread : readDocument schemaLabel schema with
  | error interruption => simp [generate, hread]
  | ok document =>
      simp only [generate, hread, Action.ofRawText, haction, Traced.result_bind,
        Traced.result_record, Traced.result_ofExcept, ok_bind]
      rfl

/-- An action that is no string is not found, whatever the schema says. -/
theorem missed_of_text?_eq_none (haction : action.text? = none) (schema : String)
    (operation : Option String) (endpointVariable : τ) :
    ∃ failure, (generate action schema operation endpointVariable).result =
      .error (.failure failure) ∧ Missed action failure := by
  rw [result_generate_of_text?_eq_none haction]
  cases hread : readDocument schemaLabel schema with
  | error interruption =>
      obtain ⟨detail, rfl⟩ := unparsable_of_readDocument hread
      exact ⟨_, rfl, .unparsable detail⟩
  | ok document =>
      rw [ok_bind]
      cases document.findType? mutationTypeName with
      | none => exact ⟨_, rfl, .noMutationType⟩
      | some declaration => exact ⟨_, rfl, .noAction⟩

/-- A generation that succeeds is one for an action whose text is a name. -/
theorem exists_name_of_generate [LawfulTextual τ] {endpointVariable : τ}
    {artifacts : List (Artifact τ)}
    (hgenerate : (generate action schema operation endpointVariable).result = .ok artifacts) :
    ∃ (name : String) (content : τ), action = name ∧ Graphql.IsName name ∧
      artifacts = [⟨fileName name, content⟩] := by
  cases haction : action.text? with
  | none =>
      obtain ⟨failure, hfailure, _⟩ :=
        missed_of_text?_eq_none haction schema operation endpointVariable
      cases hgenerate.symm.trans hfailure
  | some name =>
      obtain rfl := RawText.text?_eq_some_iff.mp haction
      obtain ⟨hname, content, hartifacts⟩ := artifact_of_generate hgenerate
      exact ⟨name, content, rfl, hname, hartifacts⟩

theorem handler_plain_ofString (facts : Action) :
    (Context.plain facts RawText).handler = (Context.plain facts).handler :=
  Context.handler_ofString rfl rfl

theorem handler_relaying_ofString (facts : Action) (derive : DeriveOperation)
    (source endpointVariable : String) :
    (Context.relaying facts derive source (endpointVariable : RawText)).handler =
      (Context.relaying facts derive source endpointVariable).handler :=
  Context.handler_ofString rfl rfl

/-- Generations go the same way for strings and for raw texts. -/
theorem result_generate_ofString (action : RawText) (schema : String)
    (operation : Option String) (endpointVariable : String) :
    (generate action schema operation (endpointVariable : RawText)).result =
      List.map Artifact.raw <$> (generate action schema operation endpointVariable).result := by
  cases haction : action.text? with
  | none =>
      rw [result_generate_of_text?_eq_none haction, result_generate_of_text?_eq_none haction]
      cases readDocument schemaLabel schema <;> rfl
  | some name =>
      obtain rfl := RawText.text?_eq_some_iff.mp haction
      rw [result_generate, result_generate]
      cases findAction name schema with
      | error interruption => rfl
      | ok facts =>
          simp only [ok_bind]
          cases operationText? operation with
          | none => simp [artifact, handler_plain_ofString, Artifact.raw]
          | some source =>
              dsimp only
              cases findOperation source with
              | error interruption => rfl
              | ok derive =>
                  simp only [ok_bind, relayArtifacts]
                  cases unboundVariables facts.arguments derive.variableNames with
                  | nil => simp [artifact, handler_relaying_ofString, Artifact.raw]
                  | cons => rfl

/-- What is in the endpoint variable of a relaying handler is in the handler. -/
theorem mem_handler_relaying (facts : Action) (derive : DeriveOperation) (source : String)
    {endpointVariable : RawText} {point : Text.RawChar} (hpoint : point ∈ endpointVariable) :
    point ∈ (Context.relaying facts derive source endpointVariable).handler := by
  have hhole : "endpoint_env_var" ∈ (handlerTemplate true).holes := by decide
  exact Template.mem_fill hhole hpoint

/-- The handler that a generation makes can be encoded, unless it relays an operation and its
endpoint variable cannot be encoded. -/
theorem content_encodes_iff {endpointVariable content : RawText} {name : String}
    (hgenerate : (generate action schema operation endpointVariable).result =
      .ok [⟨name, content⟩]) :
    (∃ text : String, content = text) ↔
      operationText? operation = none ∨ ∃ text : String, endpointVariable = text := by
  obtain ⟨_, _, rfl, _, _⟩ := exists_name_of_generate hgenerate
  obtain ⟨facts, _, _, hartifacts, hmode⟩ := handler_of_generate hgenerate
  cases hartifacts
  rcases hmode with ⟨hoperation, rfl⟩ | ⟨source, derive, hoperation, _, rfl⟩
  · exact iff_of_true ⟨_, handler_plain_ofString facts⟩ (.inl hoperation)
  · constructor
    · rintro ⟨text, htext⟩
      refine .inr (RawText.exists_eq_ofString fun value hvalue => ?_)
      have hmem := mem_handler_relaying facts derive source hvalue
      rw [htext] at hmem
      exact RawText.surrogate_not_mem_ofString value text hmem
    · rintro (hnone | ⟨text, rfl⟩)
      · cases hoperation.symm.trans hnone
      · exact ⟨_, handler_relaying_ofString facts derive source text⟩

end Generation

end ActionHandler
