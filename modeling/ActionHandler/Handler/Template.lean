import ActionHandler.Interruption
import ActionHandler.Text.LineEnding
import ActionHandler.Text.RawText

/-! # Templates

A template is text with named holes. It is rendered by putting the text for each name
into its holes, as it is; a hole whose name has no text is a fault. What stands in a hole
may be any kind of text, and the rendered text is of the same kind.
-/

namespace ActionHandler.Handler

open Text (Textual)

/-- A part of a template. -/
inductive Piece
  | text (content : String)
  | hole (name : String)
  deriving DecidableEq, Repr

/-- A piece of text made of whole lines. -/
def Piece.lines (lines : List String) : Piece :=
  .text (Text.unlines lines)

/-- A template, from left to right. -/
abbrev Template := List Piece

/-- Texts by name. -/
abbrev Bindings (τ : Type := String) := List (String × τ)

variable {τ : Type} [Append τ] [Textual τ]

/-- The text that a piece becomes. -/
def Piece.render (bindings : Bindings τ) : Piece → Except Interruption τ
  | .text content => .ok (Textual.ofString content)
  | .hole name =>
      match bindings.lookup name with
      | some content => .ok content
      | none => .error (.fault (.undefinedVariable name))

namespace Template

/-- The text that a template becomes. The first hole without a text decides the fault. -/
def render (bindings : Bindings τ) : Template → Except Interruption τ
  | [] => .ok (Textual.ofString "")
  | piece :: rest => do
      let first ← piece.render bindings
      let others ← render bindings rest
      return first ++ others

/-- The names of the holes, in order of appearance. -/
def holes : Template → List String
  | [] => []
  | .text _ :: rest => holes rest
  | .hole name :: rest => name :: holes rest

end Template

end ActionHandler.Handler
