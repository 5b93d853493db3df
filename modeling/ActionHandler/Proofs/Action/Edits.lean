import ActionHandler.Proofs.Action.Findings

/-! # What an action does not depend on

What a document says about an action changes with few edits of the document. Definitions behind
those that were found do not matter, nor do definitions of other names at any place, nor anything
about members but their names, the names of their arguments and the types inside all markers.
And it does not matter which of its declarations a field of the mutation type stands in, as long
as the order of the fields stays.
-/

namespace ActionHandler

open Graphql

namespace Graphql

/-- That members differ in nothing but the markers of their types, the types and default values
of their arguments, and descriptions and directives anywhere. -/
structure Member.Alike (first second : Member) : Prop where
  name : first.name = second.name
  innermost : first.type.innermost = second.type.innermost
  arguments : first.arguments?.map (·.map (·.name)) = second.arguments?.map (·.map (·.name))

/-- That declarations differ in nothing but what members alike differ in, and what stands beside
the members. -/
structure TypeDeclaration.Alike (first second : TypeDeclaration) : Prop where
  name : first.name = second.name
  kind : first.kind = second.kind
  members : List.Forall₂ Member.Alike first.members second.members

/-- That definitions are declarations of types alike, or no declarations of types. -/
inductive Definition.Alike : Definition → Definition → Prop
  | type {first second : TypeDeclaration} (halike : first.Alike second) :
      Alike (.type first) (.type second)
  | other {first second : Definition} (hfirst : first.declaration? = none)
      (hsecond : second.declaration? = none) : Alike first second

theorem Member.Alike.refl (member : Member) : member.Alike member :=
  ⟨rfl, rfl, rfl⟩

theorem TypeDeclaration.Alike.refl (declaration : TypeDeclaration) :
    declaration.Alike declaration :=
  ⟨rfl, rfl, List.forall₂_same.mpr fun member _ => .refl member⟩

variable {first second : TypeDeclaration}

/-- Declarations that are alike have members of a name that are alike. -/
theorem TypeDeclaration.Alike.findMember?_rel (halike : first.Alike second) (name : String) :
    Option.Rel Member.Alike (first.findMember? name) (second.findMember? name) :=
  find?_rel (fun _ _ hmembers => by rw [hmembers.name]) halike.members

end Graphql

namespace Action

variable {document other first second : Document} {action : String} {found : Member}

/-- Members that are alike have the same arguments. -/
theorem argumentNames_of_alike {one other : Member} (halike : one.Alike other) :
    argumentNames one = argumentNames other := by
  have harguments := halike.arguments
  unfold argumentNames
  cases hone : one.arguments? with
  | none =>
      rw [hone, Option.map_none, eq_comm, Option.map_eq_none_iff] at harguments
      rw [harguments]
  | some values =>
      rw [hone, Option.map_some, eq_comm, Option.map_eq_some_iff] at harguments
      obtain ⟨values', hother, hnames⟩ := harguments
      have htexts := congrArg (List.map Name.text) hnames
      rw [List.map_map, List.map_map] at htexts
      rw [hother]
      exact congrArg Except.ok htexts.symm

/-- The output fields depend on the declaration of the output type alone. -/
theorem outputFieldNames_congr {name : String}
    (houtput : Option.Rel TypeDeclaration.Alike (first.findType? name) (second.findType? name)) :
    outputFieldNames first action name = outputFieldNames second action name := by
  unfold outputFieldNames
  generalize first.findType? name = one, second.findType? name = other at houtput ⊢
  cases houtput with
  | none => rfl
  | @some one other halike =>
      have hnames : one.members.map (·.name.text) = other.members.map (·.name.text) :=
        map_eq_of_forall₂ (fun _ _ hmembers => by rw [hmembers.name]) halike.members
      simp only
      cases hone : one.members? with
      | none =>
          have hkind := TypeDeclaration.members?_eq_none_iff.mp hone
          rw [halike.kind] at hkind
          rw [TypeDeclaration.members?_eq_none_iff.mpr hkind]
      | some members =>
          obtain ⟨hkind, rfl⟩ := TypeDeclaration.members?_eq_some_iff.mp hone
          rw [halike.kind] at hkind
          rw [TypeDeclaration.members?_eq_some_iff.mpr ⟨hkind, rfl⟩]
          exact congrArg Except.ok hnames

/-- Without the action, the failure depends on whether there is a mutation type. -/
theorem member_of_none (hnone : findActionMember? document action = none) :
    member document action = .error (.failure
      (if (document.findType? mutationTypeName).isSome then .noAction action
        else .noMutationType)) := by
  rw [member, hnone]
  cases document.findType? mutationTypeName <;> rfl

/-- Documents in which lookups find declarations and members alike say the same. -/
theorem ofDocument_congr
    (hmutation : (first.findType? mutationTypeName).isSome =
      (second.findType? mutationTypeName).isSome)
    (hmember : Option.Rel Member.Alike (findActionMember? first action)
      (findActionMember? second action))
    (houtput : ∀ found, findActionMember? first action = some found → found.arguments? ≠ none →
      Option.Rel TypeDeclaration.Alike (first.findType? found.type.innermost.text)
        (second.findType? found.type.innermost.text)) :
    ofDocument first action = ofDocument second action := by
  unfold ofDocument
  cases hone : findActionMember? first action with
  | none =>
      rw [hone] at hmember
      rw [member_of_none hone, member_of_none (eq_none_of_rel hmember), hmutation,
        Traced.ofExcept_error_bind, Traced.ofExcept_error_bind]
  | some one =>
      rw [hone] at hmember
      obtain ⟨other, hother, halike⟩ := exists_of_rel hmember
      rw [member_eq_ok_iff.mpr hone, member_eq_ok_iff.mpr hother, Traced.ofExcept_ok_bind,
        Traced.ofExcept_ok_bind, ← argumentNames_of_alike halike, ← halike.innermost]
      cases harguments : argumentNames one with
      | error interruption => rfl
      | ok arguments =>
          have hsome : one.arguments? ≠ none := by
            intro hnone
            rw [argumentNames, hnone] at harguments
            cases harguments
          simp only [Traced.ofExcept_ok_bind, outputFieldNames_congr (houtput one hone hsome)]

/-- That an outcome does not come of something that could still be declared further on. -/
structure Settled (action : String) (result : Except Interruption Action) : Prop where
  mutationType : result ≠ .error (.failure .noMutationType)
  member : result ≠ .error (.failure (.noAction action))
  outputType : ∀ type, result ≠ .error (.failure (.noOutputType action type "is not defined"))

/-- What stands behind a document does not matter when the action and its output type are found in
it. -/
theorem ofDocument_append_of_isMember {declaration : TypeDeclaration}
    (hmember : IsMember document action declaration found)
    (houtput : found.arguments? ≠ none →
      (document.findType? found.type.innermost.text).isSome) (more : Document) :
    ofDocument document action = ofDocument (document ++ more) action := by
  have hfound := findActionMember?_eq_some_iff.mpr ⟨declaration, hmember⟩
  have hmutation : (document.findType? mutationTypeName).isSome :=
    Document.isSome_findType?.mpr ⟨_, hmember.isFirst.mem, hmember.isFirst.holds.1⟩
  apply ofDocument_congr
  · rw [Document.findType?_append, Option.isSome_or, hmutation, Bool.true_or]
  · rw [findActionMember?_append, hfound]
    exact .some (.refl found)
  · intro other hother hsome
    rw [hfound, Option.some.injEq] at hother
    subst hother
    obtain ⟨output, houtput⟩ := Option.isSome_iff_exists.mp (houtput hsome)
    rw [Document.findType?_append, houtput]
    exact .some (.refl output)

/-- What stands behind a document changes nothing about a settled outcome. -/
theorem ofDocument_append (hsettled : Settled action (ofDocument document action).result)
    (more : Document) : ofDocument (document ++ more) action = ofDocument document action := by
  have hfinding : Finding document action (ofDocument document action).result :=
    finding_of_result rfl
  generalize (ofDocument document action).result = result at hsettled hfinding
  symm
  cases hfinding with
  -- Behind the document, there could be what is missing in it.
  | noMutationType => exact absurd rfl hsettled.mutationType
  | noAction => exact absurd rfl hsettled.member
  | inputField hmember hkind =>
      have harguments := hmember.arguments?_eq_none_iff.mpr hkind
      exact ofDocument_append_of_isMember hmember (fun hsome => absurd harguments hsome) more
  | notDefined => exact absurd rfl (hsettled.outputType _)
  | withoutFields hmember houtput | found hmember houtput =>
      refine ofDocument_append_of_isMember hmember (fun _ => ?_) more
      exact Document.isSome_findType?.mpr ⟨_, houtput.mem, houtput.holds⟩

/-- That a definition has nothing to say about an action: it declares no type at all, or one that
is neither the mutation type nor the one that the action returns. -/
structure Irrelevant (document : Document) (action : String) (definition : Definition) :
    Prop where
  mutationType : ¬ definition.IsTypeNamed mutationTypeName
  outputType : ∀ declaration found, IsMember document action declaration found →
    ¬ definition.IsTypeNamed found.type.innermost.text

end Action

namespace Graphql.Definition.Alike

variable {first second : Definition}

/-- Definitions that are alike declare types of a name that are alike. -/
theorem typeNamed?_rel (halike : first.Alike second) (name : String) :
    Option.Rel TypeDeclaration.Alike (first.typeNamed? name) (second.typeNamed? name) := by
  cases halike with
  | @type one other halike =>
      simp only [typeNamed?, declaration?, Option.filter_some, beq_iff_eq, halike.name]
      split
      · exact .some halike
      · exact .none
  | other hfirst hsecond =>
      rw [typeNamed?, typeNamed?, hfirst, hsecond]
      exact .none

/-- Definitions that are alike declare actions that are alike. -/
theorem actionMember?_rel (halike : first.Alike second) (action : String) :
    Option.Rel Member.Alike (first.actionMember? action) (second.actionMember? action) := by
  have hrel := halike.typeNamed?_rel mutationTypeName
  unfold actionMember?
  generalize first.typeNamed? mutationTypeName = one,
    second.typeNamed? mutationTypeName = other at hrel ⊢
  cases hrel with
  | some halike => exact halike.findMember?_rel action
  | none => exact .none

end Graphql.Definition.Alike

namespace Action

variable {document other : Document} {action : String}

/-- Edits that only touch what is irrelevant, or what makes no difference between things alike,
change nothing. -/
theorem ofDocument_edited
    (hedited : Edited (Irrelevant document action) Definition.Alike document other) :
    ofDocument document action = ofDocument other action := by
  have htype : ∀ name,
      (∀ definition, Irrelevant document action definition → ¬ definition.IsTypeNamed name) →
      Option.Rel TypeDeclaration.Alike (document.findType? name) (other.findType? name) := by
    intro name hskipped
    rw [Document.findType?_eq_findSome?, Document.findType?_eq_findSome?]
    refine hedited.findSome?_rel (fun definition hirrelevant => ?_)
      fun _ _ halike => halike.typeNamed?_rel name
    exact (answer_eq_none_iff (Definition.isSome_typeNamed? name) definition).mpr
      (hskipped definition hirrelevant)
  apply ofDocument_congr
  · exact isSome_eq_of_rel (htype _ fun _ hirrelevant => hirrelevant.mutationType)
  · rw [findActionMember?_eq_findSome?, findActionMember?_eq_findSome?]
    refine hedited.findSome?_rel (fun definition hirrelevant => ?_)
      fun _ _ halike => halike.actionMember?_rel action
    refine (answer_eq_none_iff (Definition.isSome_actionMember? action) definition).mpr ?_
    exact fun hdeclares => hirrelevant.mutationType hdeclares.isTypeNamed
  · intro found hfound _
    obtain ⟨declaration, hmember⟩ := findActionMember?_eq_some_iff.mp hfound
    exact htype _ fun _ hirrelevant => hirrelevant.outputType declaration found hmember

/-- That fields are divided into those that stay and those that move behind them, where no field
gets behind a later one of its name. -/
inductive Divided : List FieldDefinition → List FieldDefinition → List FieldDefinition → Prop
  | nil : Divided [] [] []
  | stay {field : FieldDefinition} {fields kept moved : List FieldDefinition}
      (hrest : Divided fields kept moved) : Divided (field :: fields) (field :: kept) moved
  | move {field : FieldDefinition} {fields kept moved : List FieldDefinition}
      (hbehind : ∀ later ∈ kept, later.name ≠ field.name) (hrest : Divided fields kept moved) :
      Divided (field :: fields) kept (field :: moved)

/-- Any cut through a list of fields divides it. -/
theorem Divided.append (kept moved : List FieldDefinition) :
    Divided (kept ++ moved) kept moved := by
  induction kept with
  | nil =>
      induction moved with
      | nil => exact .nil
      | cons field rest ih => exact .move (fun _ hlater => absurd hlater List.not_mem_nil) ih
  | cons field rest ih => exact .stay ih

/-- A field is found where it has been kept or else where it has been moved. -/
theorem Divided.find?_eq {fields kept moved : List FieldDefinition}
    (hdivided : Divided fields kept moved) (name : String) :
    fields.find? (·.name.text == name) =
      (kept.find? (·.name.text == name)).or (moved.find? (·.name.text == name)) := by
  induction hdivided with
  | nil => rfl
  | @stay field _ _ _ _ ih =>
      rw [List.find?_cons, List.find?_cons, ih]
      cases field.name.text == name <;> rfl
  | @move field _ kept _ hbehind _ ih =>
      rw [List.find?_cons, List.find?_cons, ih]
      cases hname : field.name.text == name with
      | false => rfl
      | true =>
          -- The moved field is still the first of its name, so no field that stays has that name.
          have hnone : kept.find? (·.name.text == name) = none := by
            refine List.find?_eq_none.mpr fun later hlater hsame => ?_
            rw [beq_iff_eq] at hname hsame
            exact hbehind later hlater (Name.ext (hsame.trans hname.symm))
          rw [hnone]
          rfl

/-- That a document is made of another one by cutting one declaration of an object type called as
the mutation type is: some of its fields stay, and the others move to an extension that follows. -/
inductive SplitsMutation : Document → Document → Prop
  | split {before after : Document} {declaration extension : TypeDeclaration}
      {interfaces more : List Name} {fields kept moved : List FieldDefinition}
      (hdeclaration : declaration.name.text = mutationTypeName)
      (hextension : extension.name.text = mutationTypeName)
      (hfields : declaration.body = .object interfaces fields)
      (hmoved : extension.body = .object more moved) (hdivided : Divided fields kept moved) :
      SplitsMutation (before ++ .type declaration :: after)
        (before ++ .type { declaration with body := .object interfaces kept } ::
          .type extension :: after)

/-- A mutation type can be declared in two parts, unless it is an output type itself. -/
theorem ofDocument_split (hsplit : SplitsMutation document other)
    (houtput : ∀ declaration found, IsMember document action declaration found →
      found.type.innermost.text ≠ mutationTypeName) :
    ofDocument document action = ofDocument other action := by
  cases hsplit with
  | @split before after declaration extension interfaces more fields kept moved hdeclaration
      hextension hfields hmoved hdivided =>
    let rest : TypeDeclaration := { declaration with body := .object interfaces kept }
    have hrest : rest.name.text = mutationTypeName := hdeclaration
    have hmember : (Definition.type declaration).actionMember? action =
        ((Definition.type rest).actionMember? action).or
          ((Definition.type extension).actionMember? action) := by
      rw [Definition.actionMember?_type hdeclaration, Definition.actionMember?_type hextension,
        Definition.actionMember?_type hrest, TypeDeclaration.findMember?_of_object hfields,
        TypeDeclaration.findMember?_of_object hmoved, TypeDeclaration.findMember?_of_object rfl,
        hdivided.find?_eq, Option.map_or]
    apply ofDocument_congr
    · rw [Document.isSome_findType?_middle hdeclaration, Document.isSome_findType?_middle hrest]
    · rw [findActionMember?_eq_findSome?, findActionMember?_eq_findSome?, findSome?_split hmember]
      exact rel_self Member.Alike.refl _
    · intro found hfound _
      obtain ⟨source, hsource⟩ := findActionMember?_eq_some_iff.mp hfound
      -- As an output type the cut declaration would be without the fields that moved.
      have hne := (houtput source found hsource).symm
      have htype : (Definition.type declaration).typeNamed? found.type.innermost.text =
          ((Definition.type rest).typeNamed? found.type.innermost.text).or
            ((Definition.type extension).typeNamed? found.type.innermost.text) := by
        rw [Definition.typeNamed?_of_ne (hdeclaration ▸ hne),
          Definition.typeNamed?_of_ne (hrest ▸ hne),
          Definition.typeNamed?_of_ne (hextension ▸ hne), Option.none_or]
      rw [Document.findType?_eq_findSome?, Document.findType?_eq_findSome?, findSome?_split htype]
      exact rel_self TypeDeclaration.Alike.refl _

/-- The outcome for an action, records included, stays the same under three kinds of edits: when it
is settled, anything may be put behind the document; definitions that are irrelevant may be put in
and taken out at any places, while those that stay may be exchanged for others like them; and a
declaration of the mutation type may be split, if the action does not return that type. -/
theorem outcome_unaffected (document : Document) (action : String) :
    (Settled action (ofDocument document action).result →
      ∀ more, ofDocument (document ++ more) action = ofDocument document action) ∧
    (∀ other, Edited (Irrelevant document action) Definition.Alike document other →
      ofDocument other action = ofDocument document action) ∧
    (∀ other, SplitsMutation document other →
      (∀ declaration found, IsMember document action declaration found →
        found.type.innermost.text ≠ mutationTypeName) →
      ofDocument other action = ofDocument document action) := by
  refine ⟨ofDocument_append, ?_, ?_⟩
  · exact fun _ hedited => (ofDocument_edited hedited).symm
  · exact fun _ hsplit houtput => (ofDocument_split hsplit houtput).symm

/-- A mutation type with two actions and the type that they return, with a scalar type between
them. The edits put types of both names behind, move the scalar type to the front while markers and
an argument's type change, and cut the mutation type between its actions. -/
theorem outcome_unaffected_two_actions :
    let mutationName : Name := ⟨"Mutation", by decide⟩
    let typeName : Name := ⟨"T", by decide⟩
    let scalarName : Name := ⟨"S", by decide⟩
    let first : Name := ⟨"a", by decide⟩
    let second : Name := ⟨"b", by decide⟩
    let field (name : Name) (arguments : List InputValue) (type : TypeRef) : FieldDefinition :=
      ⟨none, name, arguments, type, []⟩
    let object (name : Name) (fields : List FieldDefinition) : TypeDeclaration :=
      ⟨false, none, name, [], .object [] fields⟩
    let argument (type : TypeRef) : InputValue := ⟨none, second, type, none, []⟩
    let scalar : TypeDeclaration := ⟨false, none, scalarName, [], .scalar⟩
    let output := object typeName [field second [] (.named scalarName)]
    let action := field first [argument (.named scalarName)] (.nonNull (.named typeName))
    let changed := field first [argument (.list (.named typeName))] (.list (.named typeName))
    let other := field second [] (.named typeName)
    let document : Document :=
      [.type (object mutationName [action, other]), .type scalar, .type output]
    (ofDocument document "a").result = .ok ⟨"a", ["b"], "T", ["b"]⟩ ∧
    ofDocument (document ++
      [.type (object mutationName [changed]), .type (object typeName [])]) "a" =
      ofDocument document "a" ∧
    ofDocument [.type scalar, .type (object mutationName [changed, other]), .type output] "a" =
      ofDocument document "a" ∧
    ofDocument [.type (object mutationName [action]), .type (object mutationName [other]),
      .type scalar, .type output] "a" = ofDocument document "a" := by
  intro mutationName typeName scalarName first second field object argument scalar output action
    changed other document
  have hmember : IsMember document "a" (object mutationName [action, other]) (.field action) :=
    ⟨⟨⟨rfl, .field action, List.mem_cons_self, rfl⟩, [], _, rfl, nofun⟩, rfl, [], _, rfl, nofun⟩
  have htype : ∀ declaration found, IsMember document "a" declaration found →
      found.type.innermost = typeName := by
    intro declaration found hfound
    obtain ⟨_, rfl⟩ := hmember.unique hfound
    rfl
  have hresult : (ofDocument document "a").result = .ok ⟨"a", ["b"], "T", ["b"]⟩ := by
    apply ok_of_toOption
    decide
  have hsettled : Settled "a" (ofDocument document "a").result := by
    rw [hresult]
    exact ⟨nofun, nofun, nofun⟩
  have hirrelevant : Irrelevant document "a" (.type scalar) := by
    refine ⟨by decide, fun declaration found hfound => ?_⟩
    rw [htype declaration found hfound]
    decide
  have hedited : Edited (Irrelevant document "a") Definition.Alike document
      [.type scalar, .type (object mutationName [changed, other]), .type output] := by
    refine .putIn hirrelevant <| .keep ?_ <| .takeOut hirrelevant <| .keep ?_ .nil
    · exact .type ⟨rfl, rfl, .cons ⟨rfl, rfl, rfl⟩ <| .cons (.refl _) .nil⟩
    · exact .type (.refl output)
  have hsplit : SplitsMutation document [.type (object mutationName [action]),
      .type (object mutationName [other]), .type scalar, .type output] :=
    @SplitsMutation.split [] _ _ _ _ _ _ _ _ rfl rfl rfl rfl (Divided.append [action] [other])
  obtain ⟨hbehind, hedits, hsplits⟩ := outcome_unaffected document "a"
  refine ⟨hresult, hbehind hsettled _, hedits _ hedited, hsplits _ hsplit ?_⟩
  intro declaration found hfound
  rw [htype declaration found hfound]
  decide

end Action

end ActionHandler
