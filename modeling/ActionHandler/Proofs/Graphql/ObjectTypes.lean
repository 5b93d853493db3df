import ActionHandler.Graphql.Grammar.Document
import ActionHandler.Graphql.Lookup
import ActionHandler.Proofs.Graphql.Reading

/-! # Declarations of object types

Object types as an author writes them, without descriptions, default values and directives: the
text, the tokens that it spells, and the declarations that it is read as. Types may be wrapped in
lists as deep as the grammar goes, and each level of them may be required.
-/

namespace ActionHandler.Graphql

open Grammar TokenStream

variable {rest : List Token}

/-- A type as it is written: a name or a list, required or not. -/
inductive WrittenType
  | named (name : Name) (isRequired : Bool)
  | list (item : WrittenType) (isRequired : Bool)
  deriving DecidableEq

namespace WrittenType

/-- How a required type is marked. -/
def marker (isRequired : Bool) : String :=
  if isRequired then "!" else ""

/-- The text of a type. -/
def text : WrittenType → String
  | .named name isRequired => name.text ++ marker isRequired
  | .list item isRequired => "[" ++ item.text ++ "]" ++ marker isRequired

/-- The name inside all markers. -/
def innermost : WrittenType → Name
  | .named name _ => name
  | .list item _ => item.innermost

/-- The number of lists around the name. -/
def lists : WrittenType → Nat
  | .named _ _ => 0
  | .list item _ => item.lists + 1

/-- A type reference that is required or not. -/
def mark (isRequired : Bool) (type : TypeRef) : TypeRef :=
  if isRequired then .nonNull type else type

/-- The type reference that a type is read as. -/
def ref : WrittenType → TypeRef
  | .named name isRequired => mark isRequired (.named name)
  | .list item isRequired => mark isRequired (.list item.ref)

/-- The token of a marker. -/
def markerTokens (isRequired : Bool) : List Token :=
  if isRequired then [.punctuator .bang] else []

/-- The tokens of a type. -/
def tokens : WrittenType → List Token
  | .named name isRequired => .name name :: markerTokens isRequired
  | .list item isRequired =>
      .punctuator .bracketOpen :: item.tokens ++ .punctuator .bracketClose :: markerTokens isRequired

theorem innermost_ref (type : WrittenType) : type.ref.innermost = type.innermost := by
  induction type with
  | named name isRequired => cases isRequired <;> rfl
  | list item isRequired ih => cases isRequired <;> exact ih

theorem endsName_marker (isRequired : Bool) : endsName (marker isRequired).toList = true := by
  cases isRequired <;> decide

theorem spells_marker (isRequired : Bool) :
    Spells (markerTokens isRequired) (marker isRequired).toList := by
  cases isRequired with
  | false => exact .nil
  | true => exact .punctuator rfl .nil

theorem spells (type : WrittenType) : Spells type.tokens type.text.toList := by
  induction type with
  | named name isRequired =>
      rw [text, String.toList_append]
      exact .name_append name (endsName_marker isRequired) (spells_marker isRequired)
  | list item isRequired ih =>
      simp only [text, String.toList_append, List.append_assoc]
      exact .punctuator rfl (ih.append rfl (.punctuator rfl (spells_marker isRequired)))

/-- Whether tokens can stand behind a type: none of them would go on with it, or with the
declaration that it belongs to. -/
def mayFollow : List Token → Bool
  | .punctuator mark :: _ => mark ∉ [.bang, .equals, .at]
  | _ => true

/-- What may follow a type does not belong to it. -/
theorem head?_ne_of_mayFollow {tokens : List Token} {mark : Punctuator}
    (htokens : mayFollow tokens = true) (hmark : mark ∈ [.bang, .equals, .at]) :
    tokens.head? ≠ some (.punctuator mark) := by
  intro hhead
  obtain ⟨rest, rfl⟩ := List.head?_eq_some_iff.mp hhead
  simp only [mayFollow, decide_not, Bool.not_eq_true', decide_eq_false_iff_not] at htokens
  exact htokens hmark

/-- A type as a phrase for a reader that goes into so many lists. -/
def phrase (depth : Nat) (type : WrittenType) : Phrase TypeRef :=
  ⟨type.tokens, type.ref, decide (type.lists ≤ depth)⟩

theorem phrase_named (depth : Nat) (name : Name) (isRequired : Bool) :
    phrase depth (.named name isRequired) =
      ⟨.name name :: markerTokens isRequired, mark isRequired (.named name), true⟩ := by
  simp [phrase, tokens, ref, lists]

/-- A list as a phrase that is made of its item. -/
def listPhrase (isRequired : Bool) (item : Phrase TypeRef) : Phrase TypeRef where
  tokens := .punctuator .bracketOpen :: item.tokens ++
    .punctuator .bracketClose :: markerTokens isRequired
  value := mark isRequired (.list item.value)
  isShallow := item.isShallow

theorem phrase_list_zero (item : WrittenType) (isRequired : Bool) :
    phrase 0 (.list item isRequired) = listPhrase isRequired ⟨item.tokens, item.ref, false⟩ := by
  simp [phrase, listPhrase, tokens, ref, lists]

theorem phrase_list_succ (depth : Nat) (item : WrittenType) (isRequired : Bool) :
    phrase (depth + 1) (.list item isRequired) = listPhrase isRequired (item.phrase depth) := by
  simp [phrase, listPhrase, tokens, ref, lists]

theorem run_marker (type : TypeRef) (isRequired : Bool) (hrest : mayFollow rest = true) :
    (do if ← optional .bang then pure (.nonNull type) else pure type : Reader TypeRef).run
      (ofTokens (markerTokens isRequired ++ rest)) = .ok (mark isRequired type, ofTokens rest) := by
  cases isRequired with
  | false =>
      have hbang := run_optional_of_ne .bang (head?_ne_of_mayFollow hrest (by decide))
      simp [markerTokens, mark, hbang]
  | true => simp [markerTokens, mark, run_optional]

theorem reads_named (item : Reader TypeRef) (depth : Nat) (name : Name) (isRequired : Bool)
    (hrest : mayFollow rest = true) :
    Reads (typeRefWith item) (phrase depth (.named name isRequired)) rest := by
  have hmarker := run_marker (.named name) isRequired hrest
  simp only [StateT.run_bind] at hmarker
  rw [phrase_named]
  simp [Reads, Phrase.outcome, typeRefWith, run_optional_name, hmarker]

/-- A list is read as deep as its item is. -/
theorem reads_list {reader : Reader TypeRef} {item : Phrase TypeRef} (isRequired : Bool)
    (hrest : mayFollow rest = true)
    (hitem : Reads reader item
      (.punctuator .bracketClose :: (markerTokens isRequired ++ rest))) :
    Reads (typeRefWith reader) (listPhrase isRequired item) rest := by
  have hmarker := run_marker (.list item.value) isRequired hrest
  simp only [StateT.run_bind] at hmarker
  rw [Reads, Phrase.outcome] at hitem ⊢
  cases hshallow : item.isShallow with
  | false => simp [listPhrase, typeRefWith, run_optional, hitem, hshallow]
  | true => simp [listPhrase, typeRefWith, run_optional, hitem, hshallow, hmarker]

/-- A type is read if it has no more lists than the reader goes into. -/
theorem reads_typeRef (type : WrittenType) (depth : Nat) (hrest : mayFollow rest = true) :
    Reads (typeRef depth) (type.phrase depth) rest := by
  induction type generalizing depth rest with
  | named name isRequired =>
      cases depth with
      | zero => exact reads_named _ 0 name isRequired hrest
      | succ depth => exact reads_named _ (depth + 1) name isRequired hrest
  | list item isRequired ih =>
      cases depth with
      -- The reader gives up in front of the item, whatever that is.
      | zero =>
          rw [phrase_list_zero, typeRef]
          exact reads_list isRequired hrest rfl
      | succ depth =>
          rw [phrase_list_succ, typeRef]
          exact reads_list isRequired hrest (ih depth rfl)

end WrittenType

/-- Items between marks spell their phrases, if ignored characters stand between them. -/
theorem spells_between {ι α : Type} {toPhrase : ι → Phrase α} {toText : ι → String}
    {openMark close : Punctuator} (openChar closeChar separator : Char)
    (blanks front back : List Char)
    (hopen : Punctuator.ofChar? openChar = some openMark)
    (hclose : Punctuator.ofChar? closeChar = some close)
    (hblanks : (separator :: blanks).all isIgnored = true)
    (hends : endsName [separator] = true) (hfront : front.all isIgnored = true)
    (hback : back.all isIgnored = true) (hcloses : endsName (back ++ [closeChar]) = true)
    {item : ι} {others : List ι}
    (hitems : ∀ next ∈ item :: others, Spells (toPhrase next).tokens (toText next).toList) :
    Spells (Phrase.between openMark close ((item :: others).map toPhrase)).tokens
      (openChar :: (front ++ ((separator :: blanks).intercalate
        (((item :: others).map toText).map String.toList) ++ (back ++ [closeChar])))) := by
  have htokens : (Phrase.between openMark close ((item :: others).map toPhrase)).tokens =
      .punctuator openMark :: (((item :: others).flatMap fun next => (toPhrase next).tokens) ++
        [.punctuator close]) := by
    simp [Phrase.between, Phrase.all, List.flatMap_map]
  have hrow := Spells.intercalate hblanks hends hitems
  have hend : Spells [.punctuator close] (back ++ [closeChar]) :=
    .ignored_append hback (.punctuator hclose .nil)
  rw [htokens]
  exact .punctuator hopen (.ignored_append hfront (hrow.append hcloses hend))

/-- An argument as it is written. -/
structure WrittenArgument where
  name : Name
  type : WrittenType

namespace WrittenArgument

/-- The text of an argument. -/
def text (argument : WrittenArgument) : String :=
  argument.name.text ++ ": " ++ argument.type.text

/-- An argument as a phrase. -/
def phrase (argument : WrittenArgument) : Phrase InputValue where
  tokens := .name argument.name :: .punctuator .colon :: (argument.type.phrase nestingLimit).tokens
  value := ⟨none, argument.name, (argument.type.phrase nestingLimit).value, none, []⟩
  isShallow := (argument.type.phrase nestingLimit).isShallow

theorem spells (argument : WrittenArgument) :
    Spells argument.phrase.tokens argument.text.toList := by
  have htype : Spells (.punctuator .colon :: argument.type.tokens)
      (':' :: ' ' :: argument.type.text.toList) :=
    .punctuator rfl (.ignored rfl argument.type.spells)
  rw [text, String.toList_append, String.toList_append, List.append_assoc]
  exact .name_append argument.name rfl htype

theorem isItem (argument : WrittenArgument) :
    Phrase.IsItem inputValue WrittenType.mayFollow argument.phrase where
  starts := ⟨argument.name, _, rfl⟩
  follows _ := rfl
  reads rest hrest := by
    have htype := argument.type.reads_typeRef nestingLimit hrest
    have hequals := run_defaultValue_of_ne (WrittenType.head?_ne_of_mayFollow hrest (by decide))
    have hat := run_directives_of_ne true nestingLimit
      (WrittenType.head?_ne_of_mayFollow hrest (by decide))
    rw [Reads, Phrase.outcome] at htype ⊢
    cases hshallow : (argument.type.phrase nestingLimit).isShallow with
    | false => simp [phrase, inputValue, run_description_name, htype, hshallow]
    | true => simp [phrase, inputValue, run_description_name, htype, hshallow, hequals, hat]

end WrittenArgument

/-- A field as it is written. -/
structure WrittenField where
  name : Name
  arguments : List WrittenArgument
  type : WrittenType

namespace WrittenField

/-- The text of the arguments of a field. -/
def argumentsText : List WrittenArgument → String
  | [] => ""
  | arguments => "(" ++ String.intercalate ", " (arguments.map (·.text)) ++ ")"

/-- The text of a field. -/
def text (field : WrittenField) : String :=
  field.name.text ++ argumentsText field.arguments ++ ": " ++ field.type.text

/-- The arguments of a field as a phrase. -/
def argumentsPhrase (field : WrittenField) : Phrase (List InputValue) :=
  .between .parenOpen .parenClose (field.arguments.map (·.phrase))

/-- A field as a phrase. -/
def phrase (field : WrittenField) : Phrase FieldDefinition where
  tokens := .name field.name :: field.argumentsPhrase.tokens ++
    .punctuator .colon :: (field.type.phrase nestingLimit).tokens
  value := ⟨none, field.name, field.argumentsPhrase.value,
    (field.type.phrase nestingLimit).value, []⟩
  isShallow := field.argumentsPhrase.isShallow && (field.type.phrase nestingLimit).isShallow

theorem endsName_argumentsText (arguments : List WrittenArgument) :
    endsName (argumentsText arguments).toList = true := by
  cases arguments with
  | nil => rfl
  | cons argument others => simp [argumentsText, endsName, isNameContinue]

theorem spells_arguments (field : WrittenField) :
    Spells field.argumentsPhrase.tokens (argumentsText field.arguments).toList := by
  rw [argumentsPhrase]
  cases field.arguments with
  | nil => exact .nil
  | cons argument others =>
      have hitems : ∀ item ∈ argument :: others, Spells item.phrase.tokens item.text.toList :=
        fun item _ => item.spells
      have hbetween := spells_between '(' ')' ',' [' '] [] [] rfl rfl rfl rfl rfl rfl rfl hitems
      simpa [argumentsText, String.toList_intercalate] using hbetween

theorem spells (field : WrittenField) : Spells field.phrase.tokens field.text.toList := by
  have htype : Spells (.punctuator .colon :: (field.type.phrase nestingLimit).tokens)
      (':' :: ' ' :: field.type.text.toList) :=
    .punctuator rfl (.ignored rfl field.type.spells)
  have hend := endsName_argumentsText field.arguments
  simp only [text, String.toList_append, List.append_assoc]
  exact .name_append field.name (endsName_append hend rfl)
    (field.spells_arguments.append rfl htype)

theorem isItem (field : WrittenField) :
    Phrase.IsItem fieldDefinition WrittenType.mayFollow field.phrase where
  starts := ⟨field.name, _, rfl⟩
  follows _ := rfl
  reads rest hrest := by
    have htype := field.type.reads_typeRef nestingLimit hrest
    have hat := run_directives_of_ne true nestingLimit
      (WrittenType.head?_ne_of_mayFollow hrest (by decide))
    have harguments : Reads argumentDefinitions field.argumentsPhrase
        (.punctuator .colon :: ((field.type.phrase nestingLimit).tokens ++ rest)) := by
      apply reads_optionalBetween WrittenType.mayFollow (by simp) rfl
      intro argument hargument
      obtain ⟨argument, _, rfl⟩ := List.mem_map.mp hargument
      exact argument.isItem
    rw [Reads, Phrase.outcome] at htype harguments ⊢
    cases hfront : field.argumentsPhrase.isShallow with
    | false =>
        simp [phrase, fieldDefinition, run_description_name, harguments, hfront]
    | true =>
        cases hshallow : (field.type.phrase nestingLimit).isShallow with
        | false =>
            simp [phrase, fieldDefinition, run_description_name, harguments, hfront, htype,
              hshallow]
        | true =>
            simp [phrase, fieldDefinition, run_description_name, harguments, hfront, htype,
              hshallow, hat]

end WrittenField

/-- An object type as it is written. -/
structure WrittenObject where
  name : Name
  fields : List WrittenField

namespace WrittenObject

/-- The keyword of object types. -/
def keyword : Name :=
  ⟨"type", by decide⟩

/-- The text of the fields of an object type. -/
def fieldsText : List WrittenField → String
  | [] => ""
  | fields => " \x7b " ++ String.intercalate " " (fields.map (·.text)) ++ " \x7d"

/-- The text of an object type. -/
def text (object : WrittenObject) : String :=
  "type " ++ object.name.text ++ fieldsText object.fields

/-- The fields of an object type as a phrase. -/
def fieldsPhrase (object : WrittenObject) : Phrase (List FieldDefinition) :=
  .between .braceOpen .braceClose (object.fields.map (·.phrase))

/-- The declaration that an object type is read as. -/
def declaration (object : WrittenObject) : TypeDeclaration :=
  ⟨false, none, object.name, [], .object [] object.fieldsPhrase.value⟩

/-- An object type as a phrase. -/
def phrase (object : WrittenObject) : Phrase Definition where
  tokens := .name keyword :: .name object.name :: object.fieldsPhrase.tokens
  value := .type object.declaration
  isShallow := object.fieldsPhrase.isShallow

theorem spells_fields (object : WrittenObject) :
    Spells object.fieldsPhrase.tokens (fieldsText object.fields).toList := by
  rw [fieldsPhrase]
  cases object.fields with
  | nil => exact .nil
  | cons field others =>
      have hitems : ∀ item ∈ field :: others, Spells item.phrase.tokens item.text.toList :=
        fun item _ => item.spells
      have hbetween :=
        spells_between '{' '}' ' ' [] [' '] [' '] rfl rfl rfl rfl rfl rfl rfl hitems
      have hspaced : Spells _ (' ' :: _) := hbetween.ignored rfl
      simpa [fieldsText, String.toList_intercalate] using hspaced

theorem spells (object : WrittenObject) : Spells object.phrase.tokens object.text.toList := by
  have hend : endsName (fieldsText object.fields).toList = true := by
    cases object.fields with
    | nil => rfl
    | cons field others => simp [fieldsText, endsName, isNameContinue]
  have hname := Spells.name_append object.name hend object.spells_fields
  simp only [text, String.toList_append, List.append_assoc]
  exact .name_append keyword rfl (.ignored rfl hname)

/-- Whether tokens can stand behind an object type: the end, or the keyword of another one. -/
def mayFollow : List Token → Bool
  | [] => true
  | first :: _ => first == .name keyword

theorem head?_ne_of_mayFollow {tokens : List Token} (htokens : mayFollow tokens = true)
    (mark : Punctuator) : tokens.head? ≠ some (.punctuator mark) := by
  intro hhead
  obtain ⟨rest, rfl⟩ := List.head?_eq_some_iff.mp hhead
  cases htokens

/-- Neither interfaces nor directives come behind the name of an object type. -/
theorem head?_behind_name (object : WrittenObject) (hrest : mayFollow rest = true) :
    isKeyword "implements" (object.fieldsPhrase.tokens ++ rest).head? = false ∧
      (object.fieldsPhrase.tokens ++ rest).head? ≠ some (.punctuator .at) := by
  rw [fieldsPhrase]
  cases object.fields with
  | nil =>
      refine ⟨?_, head?_ne_of_mayFollow hrest .at⟩
      cases rest with
      | nil => rfl
      | cons first others =>
          obtain rfl : first = .name keyword := by simpa [mayFollow] using hrest
          have hother : (keyword.text == "implements") = false := by decide
          exact hother
  | cons field others => simp [Phrase.between, isKeyword]

theorem isItem (object : WrittenObject) : Phrase.IsItem definition mayFollow object.phrase where
  starts := ⟨keyword, _, rfl⟩
  follows _ := by simp [phrase, mayFollow]
  reads rest hrest := by
    -- What follows an object type cannot be taken for its fields if it has none.
    have hfields : Reads (optionalBetween .braceOpen .braceClose fieldDefinition)
        object.fieldsPhrase rest := by
      apply reads_optionalBetween WrittenType.mayFollow (head?_ne_of_mayFollow hrest .braceOpen) rfl
      intro field hfield
      obtain ⟨field, _, rfl⟩ := List.mem_map.mp hfield
      exact field.isItem
    obtain ⟨hkeyword, hat⟩ := object.head?_behind_name hrest
    have hinterfaces := run_optionalKeyword_of_not hkeyword
    have hdirectives := run_directives_of_ne true nestingLimit hat
    have hmeaning : Keyword.ofText? keyword.text = some (.type .object) := by decide
    rw [Reads, Phrase.outcome] at hfields ⊢
    cases hshallow : object.fieldsPhrase.isShallow with
    | false =>
        simp [phrase, definition, isDescription, hmeaning, keywordDefinition, run_description_name,
          typeDeclaration, interfaces, hinterfaces, hdirectives, typeBody, hfields, hshallow]
    | true =>
        simp [phrase, declaration, definition, isDescription, hmeaning, keywordDefinition,
          run_description_name, typeDeclaration, interfaces, hinterfaces, hdirectives, typeBody,
          hfields, hshallow]

theorem members?_declaration (object : WrittenObject) :
    object.declaration.members? =
      some (object.fields.map fun field => .field field.phrase.value) := by
  simp [TypeDeclaration.members?, declaration, TypeBody.members?, fieldsPhrase]

end WrittenObject

/-- The phrases of a document of object types, in a row. -/
def objectPhrases (objects : List WrittenObject) : Phrase Document :=
  .all (objects.map (·.phrase))

/-- Of the written types, those with a name are declared under that name. -/
theorem typesNamed_objectPhrases (objects : List WrittenObject) (name : String) :
    (objectPhrases objects).value.typesNamed name =
      (objects.filter (·.name.text == name)).map (·.declaration) := by
  simp only [Document.typesNamed, objectPhrases, Phrase.all]
  induction objects with
  | nil => rfl
  | cons object others ih =>
      have hname : object.declaration.name = object.name := rfl
      have hvalue : object.phrase.value.declaration? = some object.declaration := rfl
      rw [List.map_cons, List.map_cons, List.filterMap_cons, hvalue, List.filter_cons,
        List.filter_cons, hname, ih]
      split <;> rfl

/-- The types that are written in a declaration. -/
def WrittenObject.types (object : WrittenObject) : List WrittenType :=
  object.fields.flatMap fun field => field.arguments.map (·.type) ++ [field.type]

/-- A document can be read when none of its types has more lists than the limit. -/
theorem isShallow_objectPhrases (objects : List WrittenObject) :
    (objectPhrases objects).isShallow =
      (objects.flatMap (·.types)).all (decide <| ·.lists ≤ nestingLimit) := by
  simp [objectPhrases, Phrase.all, WrittenObject.phrase, WrittenObject.fieldsPhrase,
    WrittenField.phrase, WrittenField.argumentsPhrase, WrittenArgument.phrase,
    WrittenType.phrase, WrittenObject.types, List.all_flatMap, List.all_append, List.all_map,
    Function.comp_def]

/-- The text of a document of object types. -/
def objectsText (objects : List WrittenObject) : String :=
  String.intercalate " " (objects.map (·.text))

theorem spells_objects (objects : List WrittenObject) :
    Spells (objectPhrases objects).tokens (objectsText objects).toList := by
  have hrow : Spells (objects.flatMap (·.phrase.tokens))
      ([' '].intercalate ((objects.map (·.text)).map String.toList)) :=
    .intercalate rfl rfl fun object _ => object.spells
  simpa [objectPhrases, Phrase.all, List.flatMap_map, objectsText, String.toList_intercalate]
    using hrow

/-- A document of written types is read as their declarations. -/
theorem run_document (first : WrittenObject) (others : List WrittenObject)
    (stream : TokenStream) :
    (document (ofTokens (objectPhrases (first :: others)).tokens)).run stream =
      (objectPhrases (first :: others)).outcome [] := by
  have hothers : ∀ phrase ∈ others.map (·.phrase),
      Phrase.IsItem definition WrittenObject.mayFollow phrase := by
    intro phrase hphrase
    obtain ⟨object, _, rfl⟩ := List.mem_map.mp hphrase
    exact object.isItem
  have hmore : ∀ word tail, (do return (← peek).isSome : Reader Bool).run
      (ofTokens (.name word :: tail)) = .ok (true, ofTokens (.name word :: tail)) := by
    intro word tail
    simp
  have hnone : (do return (← peek).isSome : Reader Bool).run (ofTokens []) =
      .ok (false, ofTokens []) := by
    simp
  have hrest := run_repeatWhile hmore hnone rfl hothers
  have hend : WrittenObject.mayFollow [] = true := rfl
  have hread := first.isItem.reads _ (mayFollow_all hend hothers)
  rw [Reads, Phrase.outcome] at hread
  rw [List.append_nil] at hrest hread
  rw [objectPhrases, List.map_cons, Phrase.all_cons, Phrase.outcome]
  simp only [document, StateT.run_bind, run_settle, ok_bind, hread]
  cases first.phrase.isShallow with
  | false => rfl
  | true =>
      simp only [if_true, ok_bind, Bool.true_and]
      rw [hrest, Phrase.outcome]
      cases (Phrase.all (others.map (·.phrase))).isShallow <;> rfl

/-- A text of object types is read as their declarations, unless one of the types in it has too
many lists. -/
theorem ofText_objectsText {objects : List WrittenObject} (hobjects : objects ≠ []) :
    Document.ofText (objectsText objects) =
      if (objectPhrases objects).isShallow then .ok (objectPhrases objects).value
      else .error .tooDeep := by
  obtain ⟨first, others, rfl⟩ := List.exists_cons_of_ne_nil hobjects
  have hread := run_document first others .finished
  rw [StateT.run] at hread
  rw [Document.ofText, (spells_objects (first :: others)).ofText_eq, StateT.run', hread,
    Phrase.outcome]
  cases (objectPhrases (first :: others)).isShallow <;> rfl

end ActionHandler.Graphql
