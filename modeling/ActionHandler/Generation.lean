import ActionHandler.Graphql.Grammar.Document
import ActionHandler.Handler.Fragment

/-! # Generating a handler

A generation reads the schema, finds the action, reads and analyses the operation to
relay if there is one, binds its variables, and renders. The first of these stages that
fails decides the failure. The name of the action and the endpoint variable come from
outside, and the handler is text of the same kind as the endpoint variable.
-/

namespace ActionHandler

open Graphql (Document)
open Handler
open Text (RawText Textual)

/-- A file to write. -/
structure Artifact (τ : Type := String) where
  name : String
  content : τ
  deriving DecidableEq, Repr

/-- All facts about a file to write. -/
def Artifact.given (artifact : Artifact RawText) : GivenArtifact :=
  ⟨some artifact.name, some artifact.content⟩

variable {τ : Type} [Append τ] [Textual τ]

/-- What the text of a schema is called in reports. -/
def schemaLabel : String := "actions SDL"

/-- What the text of an operation is called in reports. -/
def operationLabel : String := "derive operation"

/-- What a text is called in reports when nothing else is known of it. -/
def documentLabel : String := "GraphQL document"

/-- Reads a text as a document, which reports call by a label. -/
def readDocument (label text : String) : Except Interruption Document :=
  match Document.ofText text with
  | .ok document => .ok document
  | .error error => .error (.failure (.unparsable label error.message))

namespace Generation

/-- The source of the records about generations. -/
def logSource : String := "action_codegen.codegen"

/-- The operation text that decides a mode: empty text counts as none. -/
def operationText? : Option String → Option String
  | none => none
  | some text => if text = "" then none else some text

/-- Reads and analyses the operation to relay. -/
def readOperation (text : String) : Traced DeriveOperation := do
  .record .debug logSource ("Derive operation:\n" ++ text)
  let document ← .ofExcept (readDocument operationLabel text)
  DeriveOperation.ofDocument document

/-- Reads and analyses the operation to relay, if there is one. -/
def readOperation? : Option String → Traced (Option DeriveOperation)
  | none => pure none
  | some text => some <$> readOperation text

/-- Renders the handler of a context. -/
def render (context : Context τ) : Traced (List (Fragment τ)) := do
  .record .info logSource "Rendering handler"
  let fragments ← .ofExcept (renderFragments context.toRenderContext)
  .record .debug logSource ("Fragments: " ++ String.intercalate ", " (fragments.map (·.name)))
  return fragments

end Generation

open Generation in
/-- Generates the handler of an action. -/
def generate (action : RawText) (schema : String) (operation : Option String)
    (endpointVariable : τ) : Traced (List (Artifact τ)) := do
  .record .info logSource ("Running the codegen for: " ++ Text.Quoted.shown action)
  let document ← .ofExcept (readDocument schemaLabel schema)
  let facts ← Action.ofRawText document action
  let source := operationText? operation
  let derive ← readOperation? source
  let context ← .ofExcept <|
    Context.build facts.given (derive.map (·.given)) source endpointVariable
  let fragments ← render context
  return [⟨fileName facts.name, assemble fragments⟩]

end ActionHandler
