import ActionHandler.Proofs.Generation.Precedence
import ActionHandler.Proofs.Graphql.ObjectTypes

/-! # Plain handlers from the text of a schema

A schema with one action, written down as an author would do it, and the handler that a
generation makes of it: from the characters of the schema to the characters of the handler.
Names are any names, those of the keywords of GraphQL among them.
-/

namespace ActionHandler.Generation

open Graphql Grammar Handler

/-- The declaration of the mutation type with one action. -/
def mutationObject (action : Name) (arguments : List WrittenArgument) (output : WrittenType) :
    WrittenObject :=
  ⟨⟨"Mutation", by decide⟩, [⟨action, arguments, output⟩]⟩

/-- The declarations of the mutation type and of the type that its action returns, in one order
or the other. -/
def actionObjects (action : Name) (arguments : List WrittenArgument) (output : WrittenType)
    (fields : List WrittenField) (mutationFirst : Bool) : List WrittenObject :=
  if mutationFirst then
    [mutationObject action arguments output, ⟨output.innermost, fields⟩]
  else
    [⟨output.innermost, fields⟩, mutationObject action arguments output]

/-- The text of a schema with one action. -/
def actionSchema (action : Name) (arguments : List WrittenArgument) (output : WrittenType)
    (fields : List WrittenField) (mutationFirst : Bool) : String :=
  objectsText (actionObjects action arguments output fields mutationFirst)

/-- A body with empty text for each field. -/
def emptyBody : List String → String
  | [] => "\x7b\x7d"
  | fields =>
      "\x7b\n" ++ String.intercalate ",\n" (fields.map fun field => "      " ++ field ++ ": \"\"") ++
        "\n    \x7d"

/-- The text of a plain handler, line by line. -/
def plainHandlerText (arguments fields : List String) : String :=
  Text.unlines [
    "",
    "module.exports = async function (context, req) \x7b",
    "  const \x7b" ++ String.intercalate ", " arguments ++ "\x7d = req.body.input;",
    "",
    "  // Write business logic that deals with inputs here...",
    "",
    "",
    "  // If error:",
    "  // context.res = \x7b",
    "  //   status: 400,",
    "  //   body: \x7b code: \"internal-error\", message: \"Internal error.\" \x7d",
    "  // \x7d;",
    "  // return;",
    "",
    "  context.res = \x7b",
    "    headers: \x7b 'Content-Type': 'application/json' \x7d,",
    "    body: " ++ emptyBody fields,
    "  \x7d;",
    "\x7d;"]

/-- What stands in front of each word but the first can be made part of the words. -/
theorem intercalate_lead (lead separator word : String) (words : List String) :
    lead ++ String.intercalate (separator ++ lead) (word :: words) =
      String.intercalate separator ((word :: words).map (lead ++ ·)) := by
  induction words generalizing word with
  | nil => simp
  | cons next rest ih =>
      have hrest := ih next
      rw [List.map_cons] at hrest ⊢
      rw [List.map_cons, String.intercalate_cons_cons, String.intercalate_cons_cons, ← hrest]
      simp only [String.append_assoc]

theorem outputLiteral_eq_emptyBody (fields : List String) :
    outputLiteral fields = emptyBody fields := by
  cases fields with
  | nil => rfl
  | cons field others =>
      have hopen : "\x7b\n      " = "\x7b\n" ++ "      " := rfl
      have hseparator : ",\n      " = ",\n" ++ "      " := rfl
      have hlead := intercalate_lead "      " ",\n" (field ++ ": \"\"") (others.map (· ++ ": \"\""))
      have hliteral : outputLiteral (field :: others) =
          "\x7b\n      " ++ String.intercalate ",\n      "
            ((field ++ ": \"\"") :: others.map (· ++ ": \"\"")) ++ "\n    \x7d" := rfl
      calc outputLiteral (field :: others)
          = "\x7b\n" ++ ("      " ++ String.intercalate (",\n" ++ "      ")
              ((field ++ ": \"\"") :: others.map (· ++ ": \"\""))) ++ "\n    \x7d" := by
            rw [hliteral, hopen, hseparator]
            simp only [String.append_assoc]
        _ = emptyBody (field :: others) := by
            rw [hlead]
            simp only [emptyBody, List.map_cons, List.map_map, Function.comp_def,
              String.append_assoc]

theorem unlines_cons (line : String) (others : List String) :
    Text.unlines (line :: others) = line ++ ("\n" ++ Text.unlines others) := by
  rw [Text.unlines, List.map_cons, String.join_cons, String.append_assoc]
  rfl

theorem handler_plain (facts : Action) :
    (Context.plain facts).handler = plainHandlerText facts.arguments facts.outputFields := by
  have hhandler : (Context.plain facts).handler =
      (handlerTemplate false).fill (Context.plain facts).text := rfl
  have hdestructure : (Context.plain facts).text "destructure" =
      destructurePattern facts.arguments := rfl
  have houtput : (Context.plain facts).text "output_literal" = emptyBody facts.outputFields :=
    outputLiteral_eq_emptyBody facts.outputFields
  have hopen : "  const \x7b" = "  const " ++ "\x7b" := rfl
  have hclose : "\x7d = req.body.input;" = "\x7d" ++ " = req.body.input;" := rfl
  have hend : " = req.body.input;\n" = " = req.body.input;" ++ "\n" := rfl
  have htemplate : handlerTemplate false =
      handlerBeginning.template ++ businessLogic.template ++ errorSuccessResponse.template := rfl
  rw [hhandler, plainHandlerText, hopen, hclose, htemplate]
  simp only [handlerBeginning, businessLogic, errorSuccessResponse, List.cons_append,
    List.nil_append, Template.fill, Text.ofString_string, Piece.lines, hdestructure, houtput,
    destructurePattern, unlines_cons, hend, String.append_assoc]
  rfl

variable (action : Name) (arguments : List WrittenArgument) (output : WrittenType)
  (fields : List WrittenField) (mutationFirst : Bool)

/-- The declarations of a schema with one action, as they are read. -/
def actionDocument : Document :=
  (objectPhrases (actionObjects action arguments output fields mutationFirst)).value

/-- The types that are written in a schema with one action. -/
def actionTypes : List WrittenType :=
  arguments.map (·.type) ++ output :: (WrittenObject.mk output.innermost fields).types

/-- The text of a schema with one action is read if its types are not nested too deeply. -/
theorem ofText_actionSchema :
    Document.ofText (actionSchema action arguments output fields mutationFirst) =
      if ∀ type ∈ actionTypes arguments output fields, type.lists ≤ nestingLimit then
        .ok (actionDocument action arguments output fields mutationFirst)
      else .error .tooDeep := by
  have hshallow : (objectPhrases
      (actionObjects action arguments output fields mutationFirst)).isShallow = true ↔
        ∀ type ∈ actionTypes arguments output fields, type.lists ≤ nestingLimit := by
    have htypes : ∀ type,
        type ∈ (actionObjects action arguments output fields mutationFirst).flatMap (·.types) ↔
          type ∈ actionTypes arguments output fields := by
      intro type
      cases mutationFirst with
      | true => simp [actionObjects, mutationObject, actionTypes, WrittenObject.types]
      | false =>
          simp only [actionObjects, mutationObject, actionTypes, WrittenObject.types,
            if_neg Bool.false_ne_true, List.flatMap_cons, List.flatMap_nil, List.append_nil,
            List.mem_append, List.mem_cons, List.not_mem_nil, or_false]
          rw [or_comm, or_assoc]
    rw [isShallow_objectPhrases, List.all_eq_true]
    simp only [htypes, decide_eq_true_eq]
  have hobjects : actionObjects action arguments output fields mutationFirst ≠ [] := by
    cases mutationFirst <;> simp [actionObjects]
  rw [actionSchema, ofText_objectsText hobjects]
  simp only [hshallow]
  rfl

/-- The declarations of a schema with one action are told apart by their names. -/
theorem typesNamed_actionDocument (houtput : output.innermost.text ≠ "Mutation") :
    (actionDocument action arguments output fields mutationFirst).typesNamed "Mutation" =
        [(mutationObject action arguments output).declaration] ∧
      (actionDocument action arguments output fields mutationFirst).typesNamed
          output.innermost.text =
        [WrittenObject.declaration ⟨output.innermost, fields⟩] := by
  have hother : ("Mutation" == output.innermost.text) = false := by
    simpa using Ne.symm houtput
  cases mutationFirst <;>
    simp [actionDocument, typesNamed_objectPhrases, actionObjects, mutationObject, houtput,
      hother]

/-- The only member of the mutation type is the action. -/
theorem findMember?_mutationObject :
    (mutationObject action arguments output).declaration.findMember? action.text =
      some (.field (WrittenField.phrase ⟨action, arguments, output⟩).value) := by
  simp [TypeDeclaration.findMember?, WrittenObject.members?_declaration, mutationObject,
    Member.name, WrittenField.phrase]

/-- What is found of an action in the declarations of its schema. -/
theorem result_ofDocument_actionDocument (houtput : output.innermost.text ≠ "Mutation") :
    (Action.ofDocument (actionDocument action arguments output fields mutationFirst)
      action.text).result =
      .ok ⟨action.text, arguments.map (·.name.text), output.innermost.text,
        fields.map (·.name.text)⟩ := by
  obtain ⟨hmutation, hfields⟩ :=
    typesNamed_actionDocument action arguments output fields mutationFirst houtput
  let member : Member := .field (WrittenField.phrase ⟨action, arguments, output⟩).value
  have hmember : Action.member (actionDocument action arguments output fields mutationFirst)
      action.text = .ok member := by
    simp [Action.member, Document.findType?, findActionMember?, mutationTypeName, hmutation,
      findMember?_mutationObject, member]
  have harguments : Action.argumentNames member = .ok (arguments.map (·.name.text)) := by
    simp [member, Action.argumentNames, Member.arguments?, WrittenField.phrase,
      WrittenField.argumentsPhrase, WrittenArgument.phrase]
  have htype : member.type.innermost = output.innermost := output.innermost_ref
  have houtputs : Action.outputFieldNames
      (actionDocument action arguments output fields mutationFirst) action.text
      output.innermost.text = .ok (fields.map (·.name.text)) := by
    simp [Action.outputFieldNames, Document.findType?, hfields,
      WrittenObject.members?_declaration, Member.name, WrittenField.phrase]
  simp [Action.result_ofDocument, hmember, harguments, htype, houtputs]

/-- A schema with one action becomes one plain handler, which takes the arguments out of the
request and responds with empty text for each field of the output type, in the order of the
schema. Only types with more lists around a name than a document may nest are refused. -/
theorem plain_handler_of_schema (endpointVariable : String)
    (houtput : output.innermost.text ≠ "Mutation") :
    (generate action.text (actionSchema action arguments output fields mutationFirst) none
        endpointVariable).result =
      if ∀ type ∈ actionTypes arguments output fields, type.lists ≤ 200 then
        .ok [⟨action.text ++ ".js",
          plainHandlerText (arguments.map (·.name.text)) (fields.map (·.name.text))⟩]
      else
        .error (.failure (.unparsable "actions SDL"
          "Syntax Error: Document is nested too deeply. Parsing aborted.")) := by
  have hread := ofText_actionSchema action arguments output fields mutationFirst
  have hfacts :=
    result_ofDocument_actionDocument action arguments output fields mutationFirst houtput
  rw [result_generate, findAction, readDocument, hread]
  by_cases hshallow : ∀ type ∈ actionTypes arguments output fields, type.lists ≤ nestingLimit
  · have hlimit : ∀ type ∈ actionTypes arguments output fields, type.lists ≤ 200 := hshallow
    simp only [if_pos hshallow, if_pos hlimit, ok_bind, hfacts, operationText?, artifact,
      handler_plain, fileName]
  · have hlimit : ¬ ∀ type ∈ actionTypes arguments output fields, type.lists ≤ 200 := hshallow
    rw [if_neg hshallow, if_neg hlimit]
    rfl

/-- Names that are keywords, an argument of a list of lists, and a field that stands twice, in
the output type in front of the mutation type. -/
theorem plain_handler_of_keywords :
    (generate "input"
      "type type \x7b extend: type extend: [type] \x7d type Mutation \x7b input(input: [[type!]]!, on: type): [type!] \x7d"
      none "URL").result =
        .ok [⟨"input.js", plainHandlerText ["input", "on"] ["extend", "extend"]⟩] := by
  let type : Name := ⟨"type", by decide⟩
  let extend : Name := ⟨"extend", by decide⟩
  let input : Name := ⟨"input", by decide⟩
  let on : Name := ⟨"on", by decide⟩
  have hhandler := plain_handler_of_schema input
    [⟨input, .list (.list (.named type true) false) true⟩, ⟨on, .named type false⟩]
    (.list (.named type true) false)
    [⟨extend, [], .named type false⟩, ⟨extend, [], .list (.named type false) false⟩] false "URL"
    (by decide)
  rw [if_pos (by decide)] at hhandler
  exact hhandler

end ActionHandler.Generation
