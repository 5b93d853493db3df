import ActionHandler.Proofs.Handler.Rendering
import ActionHandler.Proofs.Result

/-! # Contexts of complete facts

When nothing is left out of the facts about an action and an operation, a context can
always be built, unless the operation has a variable that is no argument of the action.
-/

namespace ActionHandler

theorem ask_eq_ok_iff {α : Type} {key : String} {given : Option α} {value : α} :
    ask key given = .ok value ↔ given = some value := by
  cases given <;> simp [ask]

namespace Handler

theorem bindVariables_given (facts : Action) (names : List String) :
    bindVariables facts.given names =
      match unboundVariables facts.arguments names with
      | [] => .ok names
      | unbound => .error (.failure (.unboundVariables facts.name unbound)) := by
  simp only [bindVariables, Action.given, ask, bind, Except.bind]
  cases unboundVariables facts.arguments names <;> rfl

namespace Context

variable {τ : Type}

/-- The context of a plain handler. -/
def plain (facts : Action) (τ : Type := String) : Context τ where
  actionName := facts.name
  arguments := facts.arguments
  outputFields := facts.outputFields
  destructure := destructurePattern facts.arguments
  outputLiteral := Handler.outputLiteral facts.outputFields
  relay := none

/-- The context of a handler that relays an operation. -/
def relaying (facts : Action) (operation : DeriveOperation) (source : String)
    (endpointVariable : τ) : Context τ :=
  { plain facts τ with
    relay := some {
      queryName := queryConstantName facts.name
      executeName := executeFunctionName facts.name
      operationSource := escapeTemplateLiteral source
      rootField := operation.rootField
      variablesLiteral := Handler.variablesLiteral operation.variableNames
      endpointVariable } }

theorem build_plain (facts : Action) (source : Option String) (endpointVariable : τ) :
    build facts.given none source endpointVariable = .ok (plain facts τ) :=
  rfl

theorem build_relaying (facts : Action) (operation : DeriveOperation) (source : String)
    (endpointVariable : τ) :
    build facts.given (some operation.given) (some source) endpointVariable =
      match unboundVariables facts.arguments operation.variableNames with
      | [] => .ok (relaying facts operation source endpointVariable)
      | unbound => .error (.failure (.unboundVariables facts.name unbound)) := by
  have hbind := bindVariables_given facts operation.variableNames
  simp only [build, Relay.build, DeriveOperation.given, Action.given, ask, bind,
    Except.bind] at hbind ⊢
  rw [hbind]
  cases unboundVariables facts.arguments operation.variableNames <;> rfl

/-- A context that is built for an operation relays it under the names of the action. -/
theorem relay_of_build {given : GivenAction} {operation : GivenOperation}
    {source : Option String} {endpointVariable : String} {context : Context}
    (hbuild : build given (some operation) source endpointVariable = .ok context) :
    ∃ action relay, given.name = some action ∧ context.relay = some relay ∧
      relay.queryName = queryConstantName action ∧
      relay.executeName = executeFunctionName action ∧
      relay.operationSource = escapeTemplateLiteral (source.getD "") ∧
      relay.endpointVariable = endpointVariable := by
  simp only [build, bind_eq_ok_iff, ask_eq_ok_iff] at hbuild
  obtain ⟨action, haction, _, _, _, _, relay?, hrelay, hcontext⟩ := hbuild
  simp only [Relay.build, map_eq_pure_bind, bind_assoc, bind_eq_ok_iff, ask_eq_ok_iff,
    pure_eq_ok, Except.ok.injEq] at hrelay
  obtain ⟨_, _, _, _, name, hname, _, _, relay, hrelay, hrelay?⟩ := hrelay
  obtain rfl : action = name := Option.some.inj (haction.symm.trans hname)
  subst hrelay
  cases hcontext
  exact ⟨action, _, haction, hrelay?.symm, rfl, rfl, rfl, rfl⟩

end Context

end Handler

end ActionHandler
