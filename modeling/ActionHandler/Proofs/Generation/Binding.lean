import ActionHandler.Proofs.Generation.Precedence
import ActionHandler.Proofs.Handler.RelayReading

/-! # Bound variables

A handler passes the variables of its operation on from the request, so each of them must be
an argument of the action. The arguments come from the schema and the variables from the text
of the operation, which know nothing of each other. A generation compares them: either the
handler that it gives takes all the variables that it passes out of the request, or there is
no handler and the failure names the variables that could not be bound.
-/

namespace ActionHandler.Generation

open Graphql
open Handler

/-- That a schema declares an action with arguments of given names, in order. -/
def Declares (schema action : String) (arguments : List String) : Prop :=
  ∃ document member values, Document.ofText schema = .ok document ∧
    findActionMember? document action = some member ∧ member.arguments? = some values ∧
    arguments = values.map (·.name.text)

/-- That a text is one operation that declares variables of given names, in order, and whose
first field outside introspection has a given key in the response. -/
def Requests (source : String) (names : List String) (key : String) : Prop :=
  ∃ operation introspection field others,
    Document.ofText source = .ok [.operation operation] ∧
    names = operation.variableDefinitions.map (·.name.text) ∧
    operation.selections.filterMap Selection.field? = introspection ++ field :: others ∧
    (∀ other ∈ introspection, "__".toList <+: other.name.text.toList) ∧
    ¬ "__".toList <+: field.name.text.toList ∧
    key = (field.alias?.getD field.name).text

/-- That a handler passes variables on from a request and the answer back: it takes the
arguments out of the request, calls the function that it declares with the variables, sends
the constant that it declares, and passes on what stands under a key of the answer. -/
structure PassesOn (reading : RelayReading) (arguments names : List String) (key : String) :
    Prop where
  passed : reading.passed = names
  bound : reading.bound = arguments
  passed_bound : ∀ name ∈ reading.passed, name ∈ reading.bound
  called : reading.called = reading.function
  sent : reading.sent = reading.constant
  unwrapped : reading.unwrapped = key

variable {action schema source : String} {facts : Action} {derive : DeriveOperation}

theorem readDocument_eq_ok {label text : String} {document : Document}
    (hread : readDocument label text = .ok document) : Document.ofText text = .ok document := by
  unfold readDocument at hread
  split at hread
  next found hfound =>
      cases hread
      exact hfound
  next => cases hread

theorem declares_of_findAction (hfacts : findAction action schema = .ok facts) :
    Declares schema action facts.arguments := by
  obtain ⟨document, hread, hdocument⟩ := bind_eq_ok_iff.mp hfacts
  cases Action.finding_of_result hdocument with
  | @found _ _ field hmember =>
      exact ⟨document, .field field, field.arguments, readDocument_eq_ok hread,
        Action.findActionMember?_eq_some_iff.mpr ⟨_, hmember⟩, rfl, rfl⟩

theorem requests_of_findOperation (hderive : findOperation source = .ok derive) :
    Requests source derive.variableNames derive.rootField := by
  obtain ⟨document, hread, hdocument⟩ := bind_eq_ok_iff.mp hderive
  cases DeriveOperation.finding_of_result hdocument with
  | @found operation alias? name _ _ _ hfirst =>
      obtain ⟨before, after, hsplit, hbefore⟩ := hfirst.splits
      refine ⟨operation, before.filterMap Selection.field?, ⟨alias?, name⟩,
        after.filterMap Selection.field?, readDocument_eq_ok hread, rfl, ?_, ?_, hfirst.holds, rfl⟩
      · rw [hsplit, List.filterMap_append]
        rfl
      · intro other hother
        obtain ⟨selection, hselection, hfield⟩ := List.mem_filterMap.mp hother
        have hskipped := hbefore selection hselection
        rwa [Selection.isPayload_iff_of_field? hfield, not_not] at hskipped

/-- A relaying handler passes on what its facts say. -/
theorem passesOn_handler (hfacts : facts.WellNamed) (hderive : derive.WellNamed)
    (hbound : ∀ name ∈ derive.variableNames, name ∈ facts.arguments)
    (source endpointVariable : String) :
    ∃ reading,
      relayReading? (Context.relaying facts derive source endpointVariable).handler =
        some reading ∧
      PassesOn reading facts.arguments derive.variableNames derive.rootField :=
  ⟨_, relayReading?_handler hfacts hderive source endpointVariable, {
    passed := rfl
    bound := rfl
    passed_bound := hbound
    called := rfl
    sent := rfl
    unwrapped := rfl }⟩

/-- If every variable of an operation is an argument of the action, the generated handler
passes the variables on from the request, in the order of the operation, and what the first
field of the operation gives back. Otherwise the generation fails and names the variables that
are no arguments, in the order of the operation and as often as it declares them. -/
theorem variables_bound (action schema source endpointVariable : String) (facts : Action)
    (derive : DeriveOperation) (hsource : source ≠ "")
    (hfacts : findAction action schema = .ok facts)
    (hderive : findOperation source = .ok derive) :
    Declares schema action facts.arguments ∧
    Requests source derive.variableNames derive.rootField ∧
    ((∀ name ∈ derive.variableNames, name ∈ facts.arguments) → ∃ content reading,
      (generate action schema (some source) endpointVariable).result =
        .ok [⟨action ++ ".js", content⟩] ∧
      relayReading? content = some reading ∧
      PassesOn reading facts.arguments derive.variableNames derive.rootField) ∧
    ((∃ name ∈ derive.variableNames, name ∉ facts.arguments) →
      (generate action schema (some source) endpointVariable).result =
        .error (.failure (.unboundVariables action
          (derive.variableNames.filter (· ∉ facts.arguments))))) := by
  have hresult := result_generate_of_source endpointVariable hfacts hsource
  rw [hderive, ok_bind] at hresult
  refine ⟨declares_of_findAction hfacts, requests_of_findOperation hderive, ?_, ?_⟩
  · intro hbound
    obtain ⟨reading, hreading, hpasses⟩ := passesOn_handler (wellNamed_of_findAction hfacts)
      (wellNamed_of_findOperation hderive) hbound source endpointVariable
    rw [relayArtifacts_of_bound hbound] at hresult
    exact ⟨_, reading, hresult, hreading, hpasses⟩
  · rintro ⟨name, hname, hunbound⟩
    rw [relayArtifacts_of_unbound hname hunbound] at hresult
    rw [hresult, unboundVariables]
    simp

/-- Variables in another order than the arguments, one of them twice, and a field under an
alias behind introspection. -/
theorem variables_bound_in_their_order :
    ∃ content reading,
      (generate "send" "type Mutation\x7bsend(a:A,b:B,c:C):T\x7dtype T\x7bt:T\x7d"
        (some "mutation($c:C,$a:A,$c:C)\x7b__typename k:f\x7d") "URL").result =
          .ok [⟨"send.js", content⟩] ∧
      relayReading? content = some reading ∧
      reading.passed = ["c", "a", "c"] ∧ reading.bound = ["a", "b", "c"] ∧
      reading.unwrapped = "k" := by
  obtain ⟨_, _, hpasses, _⟩ := variables_bound "send"
    "type Mutation\x7bsend(a:A,b:B,c:C):T\x7dtype T\x7bt:T\x7d"
    "mutation($c:C,$a:A,$c:C)\x7b__typename k:f\x7d" "URL"
    ⟨"send", ["a", "b", "c"], "T", ["t"]⟩ ⟨"k", ["c", "a", "c"]⟩ (by decide)
    (ok_of_toOption (by decide +kernel)) (ok_of_toOption (by decide +kernel))
  obtain ⟨content, reading, hresult, hreading, hpasses⟩ := hpasses (by decide)
  exact ⟨content, reading, hresult, hreading, hpasses.passed, hpasses.bound, hpasses.unwrapped⟩

end ActionHandler.Generation
