import ActionHandler.Proofs.Generation.Stages

/-! # Which stage decides

The first stage that fails decides how a generation ends, whatever the later stages would
have made of their inputs, and a generation whose stages all succeed gives one artifact.
The interruptions form a closed set, in which there are neither missing keys nor names
without a text: the facts of the stages are complete, and a context has a text for every
hole of the templates of its mode.
-/

namespace ActionHandler.Generation

open Graphql (Document)
open Handler

/-- The interruptions that finding an action can end in. -/
inductive ActionError (action : String) : Interruption → Prop
  | unparsable (detail : String) :
      ActionError action (.failure (.unparsable "actions SDL" detail))
  | noMutationType : ActionError action (.failure .noMutationType)
  | noAction : ActionError action (.failure (.noAction action))
  | inputField : ActionError action (.fault .argumentsOfInputField)
  | outputNotDefined (type : String) :
      ActionError action (.failure (.noOutputType action type "is not defined"))
  | outputWithoutFields (type : String) :
      ActionError action (.failure (.noOutputType action type "has no fields"))

/-- The interruptions that finding an operation can end in. -/
inductive OperationError : Interruption → Prop
  | unparsable (detail : String) :
      OperationError (.failure (.unparsable "derive operation" detail))
  | noRootField (reason : String) : OperationError (.failure (.noRootField reason))
  | unsupported (reason : String) : OperationError (.failure (.unsupportedOperation reason))

theorem findAction_of_unparsable {action schema : String} {error : Graphql.SyntaxError}
    (herror : Document.ofText schema = .error error) :
    findAction action schema = .error (.failure (.unparsable "actions SDL" error.message)) := by
  rw [findAction, readDocument, herror]
  rfl

theorem findOperation_of_unparsable {source : String} {error : Graphql.SyntaxError}
    (herror : Document.ofText source = .error error) :
    findOperation source =
      .error (.failure (.unparsable "derive operation" error.message)) := by
  rw [findOperation, readDocument, herror]
  rfl

/-- A text that cannot be read is reported under its label. -/
theorem unparsable_of_readDocument {label text : String} {interruption : Interruption}
    (hread : readDocument label text = .error interruption) :
    ∃ detail, interruption = .failure (.unparsable label detail) := by
  unfold readDocument at hread
  cases hdocument : Document.ofText text with
  | ok document =>
      rw [hdocument] at hread
      cases hread
  | error error =>
      rw [hdocument] at hread
      cases hread
      exact ⟨error.message, rfl⟩

/-- Looking for the action fails in one of these ways. -/
theorem actionError_of_findAction {action schema : String} {interruption : Interruption}
    (herror : findAction action schema = .error interruption) :
    ActionError action interruption := by
  rcases bind_eq_error_iff.mp herror with hread | ⟨document, _, hdocument⟩
  · obtain ⟨detail, rfl⟩ := unparsable_of_readDocument hread
    exact .unparsable detail
  · cases Action.finding_of_result hdocument with
    | noMutationType => exact .noMutationType
    | noAction => exact .noAction
    | inputField => exact .inputField
    | notDefined => exact .outputNotDefined _
    | withoutFields => exact .outputWithoutFields _

/-- Looking for the operation fails in one of these ways. -/
theorem operationError_of_findOperation {source : String} {interruption : Interruption}
    (herror : findOperation source = .error interruption) : OperationError interruption := by
  rcases bind_eq_error_iff.mp herror with hread | ⟨document, _, hdocument⟩
  · obtain ⟨detail, rfl⟩ := unparsable_of_readDocument hread
    exact .unparsable detail
  · cases DeriveOperation.finding_of_result hdocument with
    | empty | noRootField => exact .noRootField _
    | several | noOperation => exact .unsupported _

/-- How a generation ends, given what its stages come to. A later stage matters only where
all earlier ones succeed, and a stage that fails decides the result regardless of all that
it has not been given. -/
structure Staged (action schema : String) (operation : Option String)
    (endpointVariable : String) (result : Except Interruption (List Artifact)) : Prop where
  /-- A schema that cannot be read is reported under its label. -/
  schema_unparsable : ∀ error, Document.ofText schema = .error error →
    result = .error (.failure (.unparsable "actions SDL" error.message))
  /-- An action that cannot be found decides the result. -/
  action_missed : ∀ interruption, findAction action schema = .error interruption →
    result = .error interruption
  /-- Behind a found action, an operation that cannot be read is reported under its label. -/
  operation_unparsable : ∀ facts source error, findAction action schema = .ok facts →
    operation = some source → source ≠ "" → Document.ofText source = .error error →
    result = .error (.failure (.unparsable "derive operation" error.message))
  /-- Behind a found action, an operation of no use decides the result. -/
  operation_missed : ∀ facts source interruption, findAction action schema = .ok facts →
    operation = some source → source ≠ "" → findOperation source = .error interruption →
    result = .error interruption
  /-- Behind both, a variable that is no argument decides the result. -/
  unbound : ∀ facts source derive name, findAction action schema = .ok facts →
    operation = some source → source ≠ "" → findOperation source = .ok derive →
    name ∈ derive.variableNames → name ∉ facts.arguments →
    result = .error (.failure (.unboundVariables action
      (unboundVariables facts.arguments derive.variableNames)))
  /-- With all variables bound, there is one artifact, which relays the operation. -/
  relaying : ∀ facts source derive, findAction action schema = .ok facts →
    operation = some source → source ≠ "" → findOperation source = .ok derive →
    (∀ name ∈ derive.variableNames, name ∈ facts.arguments) →
    ∃ context fragments,
      Context.build facts.given (some derive.given) (some source) endpointVariable =
        .ok context ∧
      renderFragments context.toRenderContext = .ok fragments ∧
      fragments.map (·.name) = ["fetch_execute", "handler_beginning", "run_execute"] ∧
      result = .ok [⟨action ++ ".js", assemble fragments⟩]
  /-- Without an operation, or with an empty one, there is one artifact, a plain one. -/
  plain : ∀ facts, findAction action schema = .ok facts →
    operation = none ∨ operation = some "" →
    ∃ context fragments,
      Context.build facts.given none none endpointVariable = .ok context ∧
      renderFragments context.toRenderContext = .ok fragments ∧
      fragments.map (·.name) =
        ["handler_beginning", "business_logic", "error_success_response"] ∧
      result = .ok [⟨action ++ ".js", assemble fragments⟩]
  /-- Every interruption is one of a stage. -/
  closed : ∀ interruption, result = .error interruption →
    ActionError action interruption ∨ OperationError interruption ∨
      ∃ names, interruption = .failure (.unboundVariables action names)
  /-- No fact is ever missing. -/
  no_missing_key : ∀ key, result ≠ .error (.fault (.missingKey key))
  /-- No hole is ever without a text. -/
  no_undefined_variable : ∀ name, result ≠ .error (.fault (.undefinedVariable name))

theorem operationText?_eq_none {operation : Option String}
    (hoperation : operation = none ∨ operation = some "") : operationText? operation = none := by
  rcases hoperation with rfl | rfl <;> rfl

theorem mem_unboundVariables {arguments names : List String} {name : String} :
    name ∈ unboundVariables arguments names ↔ name ∈ names ∧ name ∉ arguments := by
  simp [unboundVariables]

theorem relayArtifacts_of_unbound {action source endpointVariable name : String}
    {facts : Action} {operation : DeriveOperation} (hname : name ∈ operation.variableNames)
    (hunbound : name ∉ facts.arguments) :
    relayArtifacts action source endpointVariable facts operation =
      .error (.failure (.unboundVariables action
        (unboundVariables facts.arguments operation.variableNames))) := by
  have hmem := mem_unboundVariables.mpr ⟨hname, hunbound⟩
  unfold relayArtifacts
  cases hnames : unboundVariables facts.arguments operation.variableNames with
  | nil => simp [hnames] at hmem
  | cons first rest => rfl

theorem unboundVariables_eq_nil {arguments names : List String}
    (hbound : ∀ name ∈ names, name ∈ arguments) : unboundVariables arguments names = [] := by
  apply List.eq_nil_iff_forall_not_mem.mpr
  intro name hmem
  obtain ⟨hname, hunbound⟩ := mem_unboundVariables.mp hmem
  exact hunbound (hbound name hname)

theorem relayArtifacts_of_bound {action source endpointVariable : String} {facts : Action}
    {operation : DeriveOperation}
    (hbound : ∀ name ∈ operation.variableNames, name ∈ facts.arguments) :
    relayArtifacts action source endpointVariable facts operation =
      .ok [artifact action (.relaying facts operation source endpointVariable)] := by
  rw [relayArtifacts, unboundVariables_eq_nil hbound]

theorem relayArtifacts_error {τ : Type} [Append τ] [Text.Textual τ] {action source : String}
    {endpointVariable : τ} {facts : Action} {operation : DeriveOperation}
    {interruption : Interruption}
    (herror : relayArtifacts action source endpointVariable facts operation =
      .error interruption) :
    ∃ names, interruption = .failure (.unboundVariables action names) := by
  unfold relayArtifacts at herror
  split at herror
  next => cases herror
  next names _ =>
      cases herror
      exact ⟨_, rfl⟩

/-- A generation fails while looking for the action, for the operation, or for an argument to a
variable. -/
theorem closed_of_generate {τ : Type} [Append τ] [Text.Textual τ] [Text.LawfulTextual τ]
    {action schema : String} {operation : Option String} {endpointVariable : τ}
    {interruption : Interruption}
    (herror : (generate action schema operation endpointVariable).result =
      .error interruption) :
    ActionError action interruption ∨ OperationError interruption ∨
      ∃ names, interruption = .failure (.unboundVariables action names) := by
  rw [result_generate] at herror
  rcases bind_eq_error_iff.mp herror with haction | ⟨facts, _, hfacts⟩
  · exact .inl (actionError_of_findAction haction)
  · cases hsource : operationText? operation with
    | none =>
        rw [hsource] at hfacts
        cases hfacts
    | some source =>
        rw [hsource] at hfacts
        rcases bind_eq_error_iff.mp hfacts with hoperation | ⟨derive, _, hderive⟩
        · exact .inr (.inl (operationError_of_findOperation hoperation))
        · exact .inr (.inr (relayArtifacts_error hderive))

/-- The first stage that fails decides how a generation ends, its interruptions form a
closed set, and without one of them there is one artifact, in the mode that the operation
asks for. -/
theorem generate_staged (action schema : String) (operation : Option String)
    (endpointVariable : String) :
    Staged action schema operation endpointVariable
      (generate action schema operation endpointVariable).result where
  schema_unparsable error herror := by
    rw [result_generate, findAction_of_unparsable herror]
    rfl
  action_missed interruption herror := by
    rw [result_generate, herror]
    rfl
  operation_unparsable facts source error hfacts hoperation hsource herror := by
    rw [hoperation, result_generate_of_source endpointVariable hfacts hsource,
      findOperation_of_unparsable herror]
    rfl
  operation_missed facts source interruption hfacts hoperation hsource herror := by
    rw [hoperation, result_generate_of_source endpointVariable hfacts hsource, herror]
    rfl
  unbound facts source derive name hfacts hoperation hsource hderive hname hunbound := by
    rw [hoperation, result_generate_of_source endpointVariable hfacts hsource, hderive, ok_bind,
      relayArtifacts_of_unbound hname hunbound]
  relaying facts source derive hfacts hoperation hsource hderive hbound := by
    refine ⟨.relaying facts derive source endpointVariable, _, ?_,
      Context.renderFragments_toRenderContext _, rfl, ?_⟩
    · rw [Context.build_relaying, unboundVariables_eq_nil hbound]
    · rw [hoperation, result_generate_of_source endpointVariable hfacts hsource, hderive,
        ok_bind, relayArtifacts_of_bound hbound, Context.assemble_fragments]
      rfl
  plain facts hfacts hoperation := by
    refine ⟨.plain facts, _, Context.build_plain facts none endpointVariable,
      Context.renderFragments_toRenderContext _, rfl, ?_⟩
    rw [result_generate, hfacts, operationText?_eq_none hoperation, ok_bind,
      Context.assemble_fragments]
    rfl
  closed _ := closed_of_generate
  no_missing_key key herror := by
    rcases closed_of_generate herror with haction | hoperation | ⟨names, hnames⟩
    · cases haction
    · cases hoperation
    · cases hnames
  no_undefined_variable name herror := by
    rcases closed_of_generate herror with haction | hoperation | ⟨names, hnames⟩
    · cases haction
    · cases hoperation
    · cases hnames

end ActionHandler.Generation
