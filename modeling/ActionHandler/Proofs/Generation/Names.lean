import ActionHandler.Proofs.Generation.Stages
import ActionHandler.Proofs.Graphql.Name

/-! # The names in found facts

The name of an action that is found, and all names in the facts about it, come from the
document and are names. So are the names in the facts about an operation.
-/

namespace ActionHandler

open Graphql

theorem isName_of_mem_texts {α : Type} {items : List α} {nameOf : α → Name} {text : String}
    (htext : text ∈ items.map fun item => (nameOf item).text) : IsName text := by
  obtain ⟨item, _, rfl⟩ := List.mem_map.mp htext
  exact (nameOf item).isName

theorem Action.IsMember.isName {document : Document} {action : String}
    {declaration : TypeDeclaration} {member : Member}
    (hmember : IsMember document action declaration member) : IsName action := by
  rw [← hmember.isFirstIn.holds]
  exact member.name.isName

/-- That all names in the facts about an action are names. -/
structure Action.WellNamed (facts : Action) : Prop where
  name : IsName facts.name
  arguments : ∀ name ∈ facts.arguments, IsName name
  outputFields : ∀ name ∈ facts.outputFields, IsName name

/-- The facts that a schema holds about an action are well named. -/
theorem Generation.wellNamed_of_findAction {action schema : String} {facts : Action}
    (hfacts : findAction action schema = .ok facts) : facts.WellNamed := by
  obtain ⟨document, _, hdocument⟩ := bind_eq_ok_iff.mp hfacts
  cases Action.finding_of_result hdocument with
  | found hmember =>
      exact {
        name := hmember.isName
        arguments := fun _ hname => isName_of_mem_texts hname
        outputFields := fun _ hname => isName_of_mem_texts hname }

/-- That all names in the facts about an operation are names. -/
structure DeriveOperation.WellNamed (derive : DeriveOperation) : Prop where
  rootField : IsName derive.rootField
  variableNames : ∀ name ∈ derive.variableNames, IsName name

/-- The facts that a text holds about an operation are well named. -/
theorem Generation.wellNamed_of_findOperation {source : String} {derive : DeriveOperation}
    (hderive : findOperation source = .ok derive) : derive.WellNamed := by
  obtain ⟨document, _, hdocument⟩ := bind_eq_ok_iff.mp hderive
  cases DeriveOperation.finding_of_result hdocument with
  | found =>
      exact {
        rootField := Name.isName _
        variableNames := fun _ hname => isName_of_mem_texts hname }

/-- A generation that succeeds gives one artifact, for an action whose name is a name. -/
theorem Generation.artifact_of_generate {τ : Type} [Append τ] [Text.Textual τ]
    [Text.LawfulTextual τ] {action schema : String} {endpointVariable : τ}
    {operation : Option String} {artifacts : List (Artifact τ)}
    (hgenerate : (generate action schema operation endpointVariable).result = .ok artifacts) :
    IsName action ∧ ∃ content, artifacts = [⟨Handler.fileName action, content⟩] := by
  obtain ⟨facts, content, hfacts, hartifacts, _⟩ := handler_of_generate hgenerate
  refine ⟨?_, content, hartifacts⟩
  rw [← name_of_findAction hfacts]
  exact (wellNamed_of_findAction hfacts).name

end ActionHandler
