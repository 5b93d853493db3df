import ActionHandler.Graphql.Grammar.TypeSystem
import ActionHandler.Graphql.Lookup
import ActionHandler.Proofs.FirstMatch

/-! # Laws of looking up declarations

Looking up a type finds the first of its declarations, and looking up a member finds the first
one of that name. What a declaration can have members of depends on its kind alone.
-/

namespace ActionHandler.Graphql

open Grammar (TypeKind)

/-- The kind of type that a body is about. -/
def TypeBody.kind : TypeBody → TypeKind
  | .scalar => .scalar
  | .object _ _ => .object
  | .interface _ _ => .interface
  | .union _ => .union
  | .enum _ => .enum
  | .input _ => .input

namespace TypeDeclaration

/-- The kind of type that a declaration is about. -/
def kind (declaration : TypeDeclaration) : TypeKind :=
  declaration.body.kind

/-- The members of a declaration, where a kind of type without members has none. -/
def members (declaration : TypeDeclaration) : List Member :=
  declaration.members?.getD []

variable {declaration : TypeDeclaration} {listed : List Member} {member : Member} {name : String}

/-- Scalars, unions and enums have no members. -/
theorem members?_eq_none_iff :
    declaration.members? = none ↔ declaration.kind ∈ [.scalar, .union, .enum] := by
  unfold TypeDeclaration.members? kind
  cases declaration.body <;> simp [TypeBody.members?, TypeBody.kind]

theorem members?_eq_some_iff :
    declaration.members? = some listed ↔
      declaration.kind ∈ [.object, .interface, .input] ∧ declaration.members = listed := by
  unfold TypeDeclaration.members TypeDeclaration.members? kind
  cases declaration.body <;> simp [TypeBody.members?, TypeBody.kind]

/-- The members of input types, and no others, are without arguments to declare. -/
theorem arguments?_eq_none_iff (hmember : member ∈ declaration.members) :
    member.arguments? = none ↔ declaration.kind = .input := by
  unfold TypeDeclaration.members TypeDeclaration.members? at hmember
  unfold kind
  cases hbody : declaration.body with
  | object interfaces fields =>
      rw [hbody] at hmember
      obtain ⟨field, _, rfl⟩ := List.mem_map.mp hmember
      simp [Member.arguments?, TypeBody.kind]
  | interface interfaces fields =>
      rw [hbody] at hmember
      obtain ⟨field, _, rfl⟩ := List.mem_map.mp hmember
      simp [Member.arguments?, TypeBody.kind]
  | input fields =>
      rw [hbody] at hmember
      obtain ⟨value, _, rfl⟩ := List.mem_map.mp hmember
      simp [Member.arguments?, TypeBody.kind]
  | scalar => simp [hbody, TypeBody.members?] at hmember
  | union types => simp [hbody, TypeBody.members?] at hmember
  | enum values => simp [hbody, TypeBody.members?] at hmember

/-- Of the members with a name, the first is found. -/
theorem findMember?_eq_some_iff :
    declaration.findMember? name = some member ↔
      IsFirst (·.name.text = name) declaration.members member :=
  find?_eq_some_iff_isFirst fun _ => beq_iff_eq

theorem findMember?_of_object {interfaces : List Name} {fields : List FieldDefinition}
    (hbody : declaration.body = .object interfaces fields) (name : String) :
    declaration.findMember? name = (fields.find? (·.name.text == name)).map .field := by
  rw [findMember?, members?, hbody]
  exact List.find?_map

theorem isSome_findMember? :
    (declaration.findMember? name).isSome ↔
      ∃ member ∈ declaration.members, member.name.text = name := by
  rw [findMember?, List.find?_isSome]
  simp only [beq_iff_eq]
  rfl

end TypeDeclaration

namespace Definition

variable {definition : Definition} {declaration : TypeDeclaration} {name : String}

/-- That a definition declares a type of a given name. Operations, fragments, schemas and
directives never do, whatever their names. -/
def IsTypeNamed (name : String) : Definition → Prop
  | .type declaration => declaration.name.text = name
  | _ => False

/-- The declaration of a type of a given name that a definition is, if it is one. -/
def typeNamed? (name : String) (definition : Definition) : Option TypeDeclaration :=
  definition.declaration?.filter (·.name.text == name)

theorem typeNamed?_eq_some_iff :
    definition.typeNamed? name = some declaration ↔
      definition = .type declaration ∧ declaration.name.text = name := by
  rw [typeNamed?, Option.filter_eq_some_iff, beq_iff_eq]
  cases definition with
  | type other => simp [declaration?]
  | operation | fragment | schema | directive => simp [declaration?]

theorem typeNamed?_of_ne (hname : declaration.name.text ≠ name) :
    (type declaration).typeNamed? name = none := by
  simp [typeNamed?, declaration?, hname]

theorem isSome_typeNamed? (name : String) (definition : Definition) :
    (definition.typeNamed? name).isSome ↔ definition.IsTypeNamed name := by
  cases definition <;> simp [typeNamed?, declaration?, IsTypeNamed, Option.isSome_filter]

instance (name : String) : DecidablePred (IsTypeNamed name) :=
  fun definition => decidable_of_iff _ (isSome_typeNamed? name definition)

end Definition

namespace Document

variable {document : Document} {declaration : TypeDeclaration} {name : String}

theorem typesNamed_eq_filterMap (document : Document) (name : String) :
    document.typesNamed name = document.filterMap (·.typeNamed? name) :=
  List.filter_filterMap

theorem findType?_eq_findSome? (document : Document) (name : String) :
    document.findType? name = document.findSome? (·.typeNamed? name) := by
  rw [findType?, typesNamed_eq_filterMap, List.head?_filterMap]

/-- Of the types with a name, the first is found. -/
theorem findType?_eq_some_iff :
    document.findType? name = some declaration ↔
      IsFirst (·.IsTypeNamed name) document (.type declaration) := by
  rw [findType?_eq_findSome?, findSome?_eq_some_iff_isFirst (Definition.isSome_typeNamed? name)]
  constructor
  · rintro ⟨definition, hfirst, hvalue⟩
    obtain ⟨rfl, _⟩ := Definition.typeNamed?_eq_some_iff.mp hvalue
    exact hfirst
  · intro hfirst
    exact ⟨_, hfirst, Definition.typeNamed?_eq_some_iff.mpr ⟨rfl, hfirst.holds⟩⟩

theorem findType?_eq_none_iff :
    document.findType? name = none ↔ ∀ definition ∈ document, ¬ definition.IsTypeNamed name := by
  rw [findType?_eq_findSome?,
    findSome?_eq_none_iff_forall_not (Definition.isSome_typeNamed? name)]

/-- A type is searched for in the first document and then in the second. -/
theorem findType?_append (document more : Document) (name : String) :
    Document.findType? (document ++ more) name =
      (document.findType? name).or (more.findType? name) := by
  simp only [findType?_eq_findSome?, List.findSome?_append]

theorem isSome_findType? :
    (document.findType? name).isSome ↔ ∃ definition ∈ document, definition.IsTypeNamed name := by
  rw [findType?_eq_findSome?, isSome_findSome?_iff_exists (Definition.isSome_typeNamed? name)]

theorem isSome_findType?_middle (hname : declaration.name.text = name) (before after : Document) :
    (Document.findType? (before ++ .type declaration :: after) name).isSome :=
  isSome_findType?.mpr ⟨_, List.mem_append_right before List.mem_cons_self, hname⟩

end Document

end ActionHandler.Graphql
