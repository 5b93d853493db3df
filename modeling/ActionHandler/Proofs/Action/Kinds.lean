import ActionHandler.Graphql.Grammar.Document
import ActionHandler.Proofs.Action.Findings

/-! # Kinds of types around an action

The type that has an action and the type that has its output fields are told by their names. Of
what kinds they are is not asked: a field that can have arguments is enough for the first, and
fields at all for the second. So interfaces and input types get into places that are meant for
object types.
-/

namespace ActionHandler.Action

open Graphql

/-- That facts about an action were taken from two declarations: what is said of the action from
a field of the first, and the output fields from the members of the second. -/
structure TakenFrom (document : Document) (facts : Action) (declaration output : TypeDeclaration) :
    Prop where
  field : ∃ field, IsMember document facts.name declaration (.field field) ∧
    facts.arguments = field.arguments.map (·.name.text) ∧
    facts.outputType = field.type.innermost.text
  isFirst : IsFirst (·.IsTypeNamed facts.outputType) document (.type output)
  outputFields : facts.outputFields = output.members.map (·.name.text)

/-- That a document declares the mutation type, but not as an object type. -/
structure MutationOfOtherKind (document : Document) : Prop where
  declared : ∃ definition ∈ document, definition.IsTypeNamed mutationTypeName
  kind_ne : ∀ declaration, .type declaration ∈ document →
    declaration.name.text = mutationTypeName → declaration.kind ≠ .object

/-- That an action or its output fields stand in types with fields that are no object types. -/
def RoleOfOtherKind (document : Document) (action : String) : Prop :=
  ∃ declaration field output, IsMember document action declaration (.field field) ∧
    IsFirst (·.IsTypeNamed field.type.innermost.text) document (.type output) ∧
    output.kind ∈ [.object, .interface, .input] ∧
    (declaration.kind = .interface ∨ output.kind = .interface ∨ output.kind = .input)

variable {document : Document} {action : String} {facts : Action}
  {declaration output : TypeDeclaration}

/-- Only object types and interfaces have fields that can have arguments. -/
theorem IsMember.kind_of_field {field : FieldDefinition}
    (hmember : IsMember document action declaration (.field field)) :
    declaration.kind ∈ [.object, .interface] := by
  have hmem : .field field ∈ declaration.members := hmember.isFirstIn.mem
  have hinput : declaration.kind ≠ .input := fun hkind =>
    nomatch hmember.arguments?_eq_none_iff.mpr hkind
  cases hmembers : declaration.members? with
  | none =>
      rw [TypeDeclaration.members, hmembers] at hmem
      cases hmem
  | some members =>
      have hkind := (TypeDeclaration.members?_eq_some_iff.mp hmembers).1
      simpa [hinput] using hkind

/-- The facts of an action are taken from one declaration and one output type. -/
theorem TakenFrom.unique {source target : TypeDeclaration}
    (htaken : TakenFrom document facts declaration output)
    (hother : TakenFrom document facts source target) :
    declaration = source ∧ output = target := by
  obtain ⟨_, hmember, _⟩ := htaken.field
  obtain ⟨_, hsource, _⟩ := hother.field
  exact ⟨(hmember.unique hsource).1, Definition.type.inj (htaken.isFirst.unique hother.isFirst)⟩

/-- An action is a field of an object type or of an interface. -/
theorem TakenFrom.kind (htaken : TakenFrom document facts declaration output) :
    declaration.kind ∈ [.object, .interface] := by
  obtain ⟨_, hmember, _⟩ := htaken.field
  exact hmember.kind_of_field

/-- Facts are found where they can be taken from a field and from a type of a kind with members. -/
theorem result_eq_ok_iff_taken :
    (ofDocument document action).result = .ok facts ↔
      facts.name = action ∧ ∃ declaration output, TakenFrom document facts declaration output ∧
        output.kind ∈ [.object, .interface, .input] := by
  constructor
  · intro hresult
    cases finding_of_result hresult with
    | found hmember houtput hkind =>
        exact ⟨rfl, _, _, ⟨⟨_, hmember, rfl, rfl⟩, houtput, rfl⟩, hkind⟩
  · rintro ⟨rfl, declaration, output, htaken, hkind⟩
    obtain ⟨⟨field, hmember, harguments, htype⟩, houtput, hfields⟩ := htaken
    rw [htype] at houtput
    have hresult := result_eq_of_finding (.found hmember houtput hkind)
    rwa [← harguments, ← htype, ← hfields] at hresult

/-- A missing mutation type is reported when no definition has its name. -/
theorem result_eq_noMutationType_iff :
    (ofDocument document action).result = .error (.failure .noMutationType) ↔
      ∀ definition ∈ document, ¬ definition.IsTypeNamed mutationTypeName := by
  refine ⟨fun hresult => ?_, fun hnone => result_eq_of_finding (.noMutationType hnone)⟩
  cases finding_of_result hresult with
  | noMutationType hnone => exact hnone

/-- Both roles are always those of object types unless some type of another kind has one of
them. -/
theorem objects_in_roles_iff :
    (∀ facts declaration output, (ofDocument document action).result = .ok facts →
      TakenFrom document facts declaration output →
        declaration.kind = .object ∧ output.kind = .object) ↔
      ¬ RoleOfOtherKind document action := by
  constructor
  · rintro hobjects ⟨declaration, field, output, hmember, houtput, hkind, hother⟩
    obtain ⟨hobject, hobject'⟩ := hobjects _ declaration output
      (result_eq_of_finding (.found hmember houtput hkind))
      ⟨⟨field, hmember, rfl, rfl⟩, houtput, rfl⟩
    rw [hobject, hobject'] at hother
    simp at hother
  · intro hroles facts declaration output hresult htaken
    obtain ⟨rfl, source, target, htaken', hkind⟩ := result_eq_ok_iff_taken.mp hresult
    obtain ⟨rfl, rfl⟩ := htaken'.unique htaken
    obtain ⟨field, hmember, _, htype⟩ := htaken.field
    have hnone : ¬ (source.kind = .interface ∨ target.kind = .interface ∨ target.kind = .input) :=
      fun hother => hroles ⟨source, field, target, hmember, htype ▸ htaken.isFirst, hkind, hother⟩
    have hsource := htaken.kind
    simp only [List.mem_cons, List.not_mem_nil, or_false] at hsource hkind
    push Not at hnone
    exact ⟨hsource.resolve_right hnone.1, by simpa [hnone] using hkind⟩

/-- When facts are found, they are from an object type or an interface, and from an object type,
an interface or an input type. Both are object types unless one of them is of another kind, which
is not noticed. A mutation type of another kind is not missed either. -/
theorem kinds_of_roles (document : Document) (action : String) :
    (∀ facts, (ofDocument document action).result = .ok facts →
      ∃ declaration output, TakenFrom document facts declaration output ∧
        declaration.kind ∈ [.object, .interface] ∧ output.kind ∈ [.object, .interface, .input]) ∧
    ((∀ facts declaration output, (ofDocument document action).result = .ok facts →
      TakenFrom document facts declaration output →
        declaration.kind = .object ∧ output.kind = .object) ↔
      ¬ RoleOfOtherKind document action) ∧
    ((MutationOfOtherKind document →
        (ofDocument document action).result = .error (.failure .noMutationType)) ↔
      ¬ MutationOfOtherKind document) := by
  refine ⟨?_, objects_in_roles_iff, ?_⟩
  · intro facts hresult
    obtain ⟨_, declaration, output, htaken, hkind⟩ := result_eq_ok_iff_taken.mp hresult
    exact ⟨declaration, output, htaken, htaken.kind, hkind⟩
  · rw [result_eq_noMutationType_iff]
    refine ⟨fun hnone hother => ?_, fun hother hkind => absurd hkind hother⟩
    obtain ⟨definition, hdefinition, hnamed⟩ := hother.declared
    exact hnone hother definition hdefinition hnamed

/-- A document in which all types are interfaces, and an action is found nevertheless. -/
theorem interfaces_in_both_roles :
    ∃ document declaration output,
      Document.ofText "interface Mutation\x7ba:I\x7dinterface I\x7bb:B\x7d" = .ok document ∧
      MutationOfOtherKind document ∧
      (ofDocument document "a").result = .ok ⟨"a", [], "I", ["b"]⟩ ∧
      TakenFrom document ⟨"a", [], "I", ["b"]⟩ declaration output ∧
      declaration.kind = .interface ∧ output.kind = .interface := by
  have hread : (Document.ofText "interface Mutation\x7ba:I\x7dinterface I\x7bb:B\x7d").toOption.any
      (fun document => document.all (fun definition =>
          definition.declaration?.all (·.kind == .interface)) &&
        (ofDocument document "a").result.toOption == some ⟨"a", [], "I", ["b"]⟩) = true := by
    decide +kernel
  obtain ⟨document, hdocument, hchecked⟩ := (Option.any_eq_true _ _).mp hread
  rw [Bool.and_eq_true, List.all_eq_true, beq_iff_eq] at hchecked
  obtain ⟨hkinds, hresult⟩ := hchecked
  have hresult := ok_of_toOption hresult
  have hkind : ∀ declaration, .type declaration ∈ document → declaration.kind = .interface := by
    intro declaration hmem
    simpa [Definition.declaration?] using hkinds _ hmem
  obtain ⟨_, declaration, output, htaken, _⟩ := result_eq_ok_iff_taken.mp hresult
  obtain ⟨_, hmember, _⟩ := htaken.field
  refine ⟨document, declaration, output, ok_of_toOption hdocument, ⟨?_, ?_⟩, hresult, htaken, ?_,
    ?_⟩
  · exact ⟨_, hmember.isFirst.mem, hmember.isFirst.holds.1⟩
  · intro other hother _
    rw [hkind other hother]
    decide
  · exact hkind declaration hmember.isFirst.mem
  · exact hkind output htaken.isFirst.mem

end ActionHandler.Action
