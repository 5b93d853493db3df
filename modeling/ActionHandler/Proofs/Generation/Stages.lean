import ActionHandler.Generation
import ActionHandler.Proofs.Action.Findings
import ActionHandler.Proofs.DeriveOperation.Findings
import ActionHandler.Proofs.Handler.Contexts

/-! # The stages of a generation

A generation finds the action, then the operation to relay if there is one, then binds the
variables of the operation, and cannot fail any more after that. So its result is that of
the first stage that fails, or else one artifact.
-/

namespace ActionHandler

open Graphql (Document)
open Handler
open Text (RawText Textual LawfulTextual)

theorem Action.ofRawText_ofString (document : Document) (name : String) :
    ofRawText document name = ofDocument document name := by
  rw [ofRawText, RawText.text?_ofString]

namespace Generation

variable {τ : Type} [Append τ] [Textual τ]

/-- What the text of a schema says about an action. -/
def findAction (action schema : String) : Except Interruption Action := do
  let document ← readDocument schemaLabel schema
  (Action.ofDocument document action).result

/-- What the text of an operation says about it. -/
def findOperation (source : String) : Except Interruption DeriveOperation := do
  let document ← readDocument operationLabel source
  (DeriveOperation.ofDocument document).result

theorem name_of_findAction {action schema : String} {facts : Action}
    (hfacts : findAction action schema = .ok facts) : facts.name = action := by
  obtain ⟨document, _, hdocument⟩ := bind_eq_ok_iff.mp hfacts
  cases Action.finding_of_result hdocument with
  | found => rfl

theorem result_readOperation (source : String) :
    (readOperation source).result = findOperation source := by
  simp [readOperation, findOperation]

theorem result_render (context : Context τ) :
    (render context).result =
      .ok ((fragmentTemplates context.relay.isSome).map (·.fill context.text)) := by
  simp [render, context.renderFragments_toRenderContext]

/-- The artifact of a generation that reaches its end. -/
def artifact (action : String) (context : Context τ) : Artifact τ :=
  ⟨fileName action, context.handler⟩

/-- What follows when the action and the operation to relay are found. -/
def relayArtifacts (action source : String) (endpointVariable : τ) (facts : Action)
    (operation : DeriveOperation) : Except Interruption (List (Artifact τ)) :=
  match unboundVariables facts.arguments operation.variableNames with
  | [] => .ok [artifact action (.relaying facts operation source endpointVariable)]
  | unbound => .error (.failure (.unboundVariables action unbound))

/-- The result of a generation, stage by stage. -/
theorem result_generate [LawfulTextual τ] (action schema : String) (operation : Option String)
    (endpointVariable : τ) :
    (generate action schema operation endpointVariable).result =
      findAction action schema >>= fun facts =>
        match operationText? operation with
        | none => .ok [artifact action (.plain facts τ)]
        | some source =>
            findOperation source >>= relayArtifacts action source endpointVariable facts := by
  have hstage : (generate action schema operation endpointVariable).result =
      findAction action schema >>= fun facts =>
        (readOperation? (operationText? operation)).result >>= fun derive =>
          Context.build facts.given (derive.map (·.given)) (operationText? operation)
            endpointVariable >>= fun context => .ok [artifact facts.name context] := by
    simp [generate, findAction, result_render, Context.assemble_fragments, artifact,
      Action.ofRawText_ofString]
  rw [hstage]
  cases hfacts : findAction action schema with
  | error interruption => rfl
  | ok facts =>
      obtain rfl := name_of_findAction hfacts
      cases operationText? operation with
      | none => rfl
      | some source =>
          simp only [ok_bind, readOperation?, Traced.result_map, result_readOperation]
          cases findOperation source with
          | error interruption => rfl
          | ok derive =>
              simp only [ok_bind, map_ok, Option.map_some, Context.build_relaying,
                relayArtifacts]
              cases unboundVariables facts.arguments derive.variableNames <;> rfl

theorem operationText?_of_ne_empty {source : String} (hsource : source ≠ "") :
    operationText? (some source) = some source := by
  rw [operationText?, if_neg hsource]

/-- Behind a found action, the operation decides the result. -/
theorem result_generate_of_source [LawfulTextual τ] {action schema source : String}
    {facts : Action} (endpointVariable : τ) (hfacts : findAction action schema = .ok facts)
    (hsource : source ≠ "") :
    (generate action schema (some source) endpointVariable).result =
      findOperation source >>= relayArtifacts action source endpointVariable facts := by
  rw [result_generate, hfacts, operationText?_of_ne_empty hsource]
  rfl

/-- A found operation whose variables are all arguments of the found action is relayed. -/
theorem result_generate_of_found [LawfulTextual τ] {action schema source : String}
    {facts : Action} {operation : DeriveOperation} (endpointVariable : τ)
    (hfacts : findAction action schema = .ok facts) (hsource : source ≠ "")
    (hoperation : findOperation source = .ok operation)
    (hbound : unboundVariables facts.arguments operation.variableNames = []) :
    (generate action schema (some source) endpointVariable).result =
      .ok [artifact action (.relaying facts operation source endpointVariable)] := by
  rw [result_generate_of_source endpointVariable hfacts hsource, hoperation, ok_bind,
    relayArtifacts, hbound]

theorem relayArtifacts_eq_ok {action source : String} {endpointVariable : τ} {facts : Action}
    {operation : DeriveOperation} {artifacts : List (Artifact τ)}
    (hartifacts : relayArtifacts action source endpointVariable facts operation =
      .ok artifacts) :
    artifacts = [artifact action (.relaying facts operation source endpointVariable)] := by
  unfold relayArtifacts at hartifacts
  split at hartifacts
  next => exact (Except.ok.inj hartifacts).symm
  next => cases hartifacts

theorem relaying_of_generate [LawfulTextual τ] {action schema source : String}
    {endpointVariable : τ} {operation : Option String} {artifacts : List (Artifact τ)}
    (hoperation : operationText? operation = some source)
    (hgenerate : (generate action schema operation endpointVariable).result =
      .ok artifacts) :
    ∃ facts derive, findAction action schema = .ok facts ∧ findOperation source = .ok derive ∧
      artifacts = [artifact action (.relaying facts derive source endpointVariable)] := by
  rw [result_generate, hoperation] at hgenerate
  obtain ⟨facts, hfacts, hrest⟩ := bind_eq_ok_iff.mp hgenerate
  obtain ⟨derive, hderive, hartifacts⟩ := bind_eq_ok_iff.mp hrest
  exact ⟨facts, derive, hfacts, hderive, relayArtifacts_eq_ok hartifacts⟩

theorem plain_of_generate [LawfulTextual τ] {action schema : String} {endpointVariable : τ}
    {operation : Option String} {artifacts : List (Artifact τ)}
    (hoperation : operationText? operation = none)
    (hgenerate : (generate action schema operation endpointVariable).result =
      .ok artifacts) :
    ∃ facts, findAction action schema = .ok facts ∧
      artifacts = [artifact action (.plain facts τ)] := by
  rw [result_generate, hoperation] at hgenerate
  obtain ⟨facts, hfacts, hartifacts⟩ := bind_eq_ok_iff.mp hgenerate
  exact ⟨facts, hfacts, (Except.ok.inj hartifacts).symm⟩

/-- A generation that succeeds gives the handler of the facts that it has found. -/
theorem handler_of_generate [LawfulTextual τ] {action schema : String} {endpointVariable : τ}
    {operation : Option String} {artifacts : List (Artifact τ)}
    (hgenerate : (generate action schema operation endpointVariable).result = .ok artifacts) :
    ∃ facts content, findAction action schema = .ok facts ∧
      artifacts = [⟨fileName action, content⟩] ∧
      ((operationText? operation = none ∧ content = (Context.plain facts τ).handler) ∨
        ∃ source derive, operationText? operation = some source ∧
          findOperation source = .ok derive ∧
          content = (Context.relaying facts derive source endpointVariable).handler) := by
  cases hoperation : operationText? operation with
  | none =>
      obtain ⟨facts, hfacts, hartifacts⟩ := plain_of_generate hoperation hgenerate
      exact ⟨facts, _, hfacts, hartifacts, .inl ⟨rfl, rfl⟩⟩
  | some source =>
      obtain ⟨facts, derive, hfacts, hderive, hartifacts⟩ :=
        relaying_of_generate hoperation hgenerate
      exact ⟨facts, _, hfacts, hartifacts, .inr ⟨source, derive, rfl, hderive, rfl⟩⟩

end Generation

end ActionHandler
