import ActionHandler.Action
import ActionHandler.Proofs.Graphql.Lookup
import ActionHandler.Proofs.Result

/-! # What a document says about an action

An action is the first field of its name in the declarations of the mutation type, and its
output fields are those of the first declaration of the type inside all markers of its own type.
What can be missing on the way there is missed in a fixed order.
-/

namespace ActionHandler

open Graphql

/-- That a definition declares a field of the mutation type with the name of an action. -/
def Graphql.Definition.DeclaresAction (action : String) : Definition → Prop
  | .type declaration =>
      declaration.name.text = mutationTypeName ∧
        ∃ member ∈ declaration.members, member.name.text = action
  | _ => False

/-- The field that a definition declares for an action, if it declares one. -/
def Graphql.Definition.actionMember? (action : String) (definition : Definition) :
    Option Member :=
  (definition.typeNamed? mutationTypeName).bind (·.findMember? action)

namespace Graphql.Definition

variable {definition : Definition} {declaration : TypeDeclaration} {action : String}

/-- A definition has the action when it declares the mutation type with such a member. -/
theorem actionMember?_eq_some_iff {found : Member} :
    definition.actionMember? action = some found ↔
      ∃ declaration, definition = .type declaration ∧
        declaration.name.text = mutationTypeName ∧ declaration.findMember? action = some found := by
  simp only [actionMember?, Option.bind_eq_some_iff, typeNamed?_eq_some_iff, and_assoc]

theorem actionMember?_type (hname : declaration.name.text = mutationTypeName) (action : String) :
    (type declaration).actionMember? action = declaration.findMember? action := by
  have hnamed : (type declaration).typeNamed? mutationTypeName = some declaration :=
    typeNamed?_eq_some_iff.mpr ⟨rfl, hname⟩
  rw [actionMember?, hnamed, Option.bind_some]

theorem DeclaresAction.isTypeNamed (hdeclares : definition.DeclaresAction action) :
    definition.IsTypeNamed mutationTypeName := by
  cases definition with
  | type declaration => exact hdeclares.1
  | operation | fragment | schema | directive => exact hdeclares.elim

theorem isSome_actionMember? (action : String) (definition : Definition) :
    (definition.actionMember? action).isSome ↔ definition.DeclaresAction action := by
  rw [Option.isSome_iff_exists]
  simp only [actionMember?_eq_some_iff]
  constructor
  · rintro ⟨found, declaration, rfl, hname, hfound⟩
    exact ⟨hname, TypeDeclaration.isSome_findMember?.mp (by rw [hfound]; rfl)⟩
  · intro hdeclares
    cases definition with
    | type declaration =>
        obtain ⟨hname, hmember⟩ := hdeclares
        obtain ⟨found, hfound⟩ :=
          Option.isSome_iff_exists.mp (TypeDeclaration.isSome_findMember?.mpr hmember)
        exact ⟨found, declaration, rfl, hname, hfound⟩
    | operation | fragment | schema | directive => exact hdeclares.elim

end Graphql.Definition

namespace Action

/-- That an action is a given field in a given declaration: in the first declaration of the
mutation type that has a field of its name, and there the first such field. -/
structure IsMember (document : Document) (action : String) (declaration : TypeDeclaration)
    (member : Member) : Prop where
  isFirst : IsFirst (·.DeclaresAction action) document (.type declaration)
  isFirstIn : IsFirst (·.name.text = action) declaration.members member

/-- What a document says about an action. -/
inductive Finding (document : Document) (action : String) : Except Interruption Action → Prop
  | noMutationType
      (hnone : ∀ definition ∈ document, ¬ definition.IsTypeNamed mutationTypeName) :
      Finding document action (.error (.failure .noMutationType))
  | noAction (hmutation : ∃ definition ∈ document, definition.IsTypeNamed mutationTypeName)
      (hnone : ∀ definition ∈ document, ¬ definition.DeclaresAction action) :
      Finding document action (.error (.failure (.noAction action)))
  | inputField {declaration : TypeDeclaration} {member : Member}
      (hmember : IsMember document action declaration member)
      (hkind : declaration.kind = .input) :
      Finding document action (.error (.fault .argumentsOfInputField))
  | notDefined {declaration : TypeDeclaration} {field : FieldDefinition}
      (hmember : IsMember document action declaration (.field field))
      (hnone : ∀ definition ∈ document, ¬ definition.IsTypeNamed field.type.innermost.text) :
      Finding document action
        (.error (.failure (.noOutputType action field.type.innermost.text "is not defined")))
  | withoutFields {declaration output : TypeDeclaration} {field : FieldDefinition}
      (hmember : IsMember document action declaration (.field field))
      (houtput : IsFirst (·.IsTypeNamed field.type.innermost.text) document (.type output))
      (hkind : output.kind ∈ [.scalar, .union, .enum]) :
      Finding document action
        (.error (.failure (.noOutputType action field.type.innermost.text "has no fields")))
  | found {declaration output : TypeDeclaration} {field : FieldDefinition}
      (hmember : IsMember document action declaration (.field field))
      (houtput : IsFirst (·.IsTypeNamed field.type.innermost.text) document (.type output))
      (hkind : output.kind ∈ [.object, .interface, .input]) :
      Finding document action (.ok {
        name := action
        arguments := field.arguments.map (·.name.text)
        outputType := field.type.innermost.text
        outputFields := output.members.map (·.name.text) })

variable {document : Document} {action : String} {declaration : TypeDeclaration}
  {found : Member} {result : Except Interruption Action}

/-- The action is searched for in one definition after the other. -/
theorem findActionMember?_eq_findSome? (document : Document) (action : String) :
    findActionMember? document action = document.findSome? (·.actionMember? action) := by
  rw [findActionMember?, Document.typesNamed_eq_filterMap, findSome?_filterMap]
  rfl

/-- The action is searched for in the first document and then in the second. -/
theorem findActionMember?_append (document more : Document) (action : String) :
    findActionMember? (document ++ more) action =
      (findActionMember? document action).or (findActionMember? more action) := by
  simp only [findActionMember?_eq_findSome?, List.findSome?_append]

/-- The member that is found is the one of the first declaration that has it. -/
theorem findActionMember?_eq_some_iff :
    findActionMember? document action = some found ↔
      ∃ declaration, IsMember document action declaration found := by
  rw [findActionMember?_eq_findSome?,
    findSome?_eq_some_iff_isFirst (Definition.isSome_actionMember? action)]
  constructor
  · rintro ⟨definition, hfirst, hvalue⟩
    obtain ⟨declaration, rfl, _, hfound⟩ := Definition.actionMember?_eq_some_iff.mp hvalue
    exact ⟨declaration, hfirst, TypeDeclaration.findMember?_eq_some_iff.mp hfound⟩
  · rintro ⟨declaration, hfirst, hfound⟩
    refine ⟨_, hfirst, Definition.actionMember?_eq_some_iff.mpr ⟨declaration, rfl, ?_, ?_⟩⟩
    · exact hfirst.holds.1
    · exact TypeDeclaration.findMember?_eq_some_iff.mpr hfound

/-- No member is found when no definition declares the action. -/
theorem findActionMember?_eq_none_iff :
    findActionMember? document action = none ↔
      ∀ definition ∈ document, ¬ definition.DeclaresAction action := by
  rw [findActionMember?_eq_findSome?,
    findSome?_eq_none_iff_forall_not (Definition.isSome_actionMember? action)]

theorem result_ofDocument (document : Document) (name : String) :
    (ofDocument document name).result = do
      let member ← member document name
      let arguments ← argumentNames member
      let outputType := member.type.innermost.text
      let outputFields ← outputFieldNames document name outputType
      return ⟨name, arguments, outputType, outputFields⟩ := by
  simp [ofDocument]

theorem member_eq_ok_iff :
    member document action = .ok found ↔ findActionMember? document action = some found := by
  unfold member
  constructor
  · intro hmember
    split at hmember
    next => cases hmember
    next =>
        split at hmember
        next => cases hmember
        next other hother =>
            cases hmember
            exact hother
  · intro hfound
    obtain ⟨declaration, hmember⟩ := findActionMember?_eq_some_iff.mp hfound
    obtain ⟨mutation, hmutation⟩ := Option.isSome_iff_exists.mp <|
      Document.isSome_findType?.mpr ⟨_, hmember.isFirst.mem, hmember.isFirst.holds.1⟩
    rw [hmutation, hfound]

/-- An action is only one field, in only one declaration. -/
theorem IsMember.unique {other : TypeDeclaration} {member : Member}
    (hmember : IsMember document action declaration found)
    (hother : IsMember document action other member) : declaration = other ∧ found = member := by
  obtain rfl := Definition.type.inj (hmember.isFirst.unique hother.isFirst)
  exact ⟨rfl, hmember.isFirstIn.unique hother.isFirstIn⟩

theorem IsMember.member_eq (hmember : IsMember document action declaration found) :
    member document action = .ok found :=
  member_eq_ok_iff.mpr (findActionMember?_eq_some_iff.mpr ⟨declaration, hmember⟩)

/-- Only the fields of input types have no arguments to declare. -/
theorem IsMember.arguments?_eq_none_iff (hmember : IsMember document action declaration found) :
    found.arguments? = none ↔ declaration.kind = .input :=
  TypeDeclaration.arguments?_eq_none_iff hmember.isFirstIn.mem

/-- A document leads to the result of its finding. -/
theorem result_eq_of_finding (hfinding : Finding document action result) :
    (ofDocument document action).result = result := by
  rw [result_ofDocument]
  cases hfinding with
  | noMutationType hnone => rw [member, Document.findType?_eq_none_iff.mpr hnone, error_bind]
  | noAction hmutation hnone =>
      obtain ⟨mutation, hmutation⟩ :=
        Option.isSome_iff_exists.mp (Document.isSome_findType?.mpr hmutation)
      rw [member, hmutation, findActionMember?_eq_none_iff.mpr hnone, error_bind]
  | inputField hmember hkind =>
      rw [hmember.member_eq, ok_bind, argumentNames, hmember.arguments?_eq_none_iff.mpr hkind,
        error_bind]
  | notDefined hmember hnone =>
      rw [hmember.member_eq, ok_bind]
      simp [argumentNames, Member.arguments?, outputFieldNames, Member.type,
        Document.findType?_eq_none_iff.mpr hnone, Failure.notDefined]
  | withoutFields hmember houtput hkind =>
      rw [hmember.member_eq, ok_bind]
      simp [argumentNames, Member.arguments?, outputFieldNames, Member.type,
        Document.findType?_eq_some_iff.mpr houtput,
        TypeDeclaration.members?_eq_none_iff.mpr hkind, Failure.withoutFields]
  | found hmember houtput hkind =>
      rw [hmember.member_eq, ok_bind]
      simp [argumentNames, Member.arguments?, outputFieldNames, Member.type,
        Document.findType?_eq_some_iff.mpr houtput,
        TypeDeclaration.members?_eq_some_iff.mpr ⟨hkind, rfl⟩]

/-- There is a finding for every document. -/
theorem exists_finding (document : Document) (action : String) :
    ∃ result, Finding document action result := by
  cases hmutation : document.findType? mutationTypeName with
  | none => exact ⟨_, .noMutationType (Document.findType?_eq_none_iff.mp hmutation)⟩
  | some mutation =>
  have hmutation := Document.isSome_findType?.mp (Option.isSome_of_eq_some hmutation)
  cases hfound : findActionMember? document action with
  | none => exact ⟨_, .noAction hmutation (findActionMember?_eq_none_iff.mp hfound)⟩
  | some found =>
      obtain ⟨declaration, hmember⟩ := findActionMember?_eq_some_iff.mp hfound
      cases found with
      | input value =>
          exact ⟨_, .inputField hmember (hmember.arguments?_eq_none_iff.mp rfl)⟩
      | field field =>
          cases houtput : document.findType? field.type.innermost.text with
          | none =>
              exact ⟨_, .notDefined hmember (Document.findType?_eq_none_iff.mp houtput)⟩
          | some output =>
              rw [Document.findType?_eq_some_iff] at houtput
              cases hmembers : output.members? with
              | none =>
                  exact ⟨_, .withoutFields hmember houtput
                    (TypeDeclaration.members?_eq_none_iff.mp hmembers)⟩
              | some members =>
                  exact ⟨_, .found hmember houtput
                    (TypeDeclaration.members?_eq_some_iff.mp hmembers).1⟩

/-- Whatever the outcome is, it comes of what the document says. -/
theorem finding_of_result (hresult : (ofDocument document action).result = result) :
    Finding document action result := by
  obtain ⟨other, hfinding⟩ := exists_finding document action
  rwa [← hresult, result_eq_of_finding hfinding]

/-- The outcome of looking for an action is what the document says about it, and nothing else:
the mutation type is missed before the action, the action before its arguments, and these before
the type that it returns. -/
theorem outcome_of_document (document : Document) (action : String)
    (result : Except Interruption Action) :
    (ofDocument document action).result = result ↔ Finding document action result :=
  ⟨finding_of_result, result_eq_of_finding⟩

end Action

end ActionHandler
