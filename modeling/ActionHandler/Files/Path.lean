import ActionHandler.Text.RawText

/-! # Paths

A path is a root and a list of components. Empty components and single dots mean
nothing and are left out when a path is read; a double dot is kept, because what it
leads to depends on the tree.
-/

namespace ActionHandler.Files

open Text (RawText RawChar)

/-- Where a path starts. Exactly two slashes are a root of their own. -/
inductive Root
  | relative
  | slash
  | doubleSlash
  deriving DecidableEq, Repr

/-- How a root is written. -/
def Root.text : Root → String
  | .relative => ""
  | .slash => "/"
  | .doubleSlash => "//"

/-- A root and the components below it. -/
structure Path where
  root : Root
  components : List RawText
  deriving DecidableEq, Repr

namespace Path

/-- The root that a text starts with. -/
def rootOf (text : RawText) : Root :=
  match (text.takeWhile (· == .char '/')).length with
  | 0 => .relative
  | 2 => .doubleSlash
  | _ => .slash

/-- Whether a part between slashes leads anywhere. -/
def isComponent (part : RawText) : Bool :=
  part != "" && part != "."

/-- The components of a text. -/
def componentsOf (text : RawText) : List RawText :=
  (text.splitOn (.char '/')).filter isComponent

/-- Reads a text as a path. -/
def ofText (text : RawText) : Path :=
  ⟨rootOf text, componentsOf text⟩

/-- How a path is written; the path without root and components is a dot. -/
def text (path : Path) : RawText :=
  if path.root = .relative ∧ path.components = [] then "."
  else path.root.text ++ [.char '/'].intercalate path.components

/-- The path one component shorter. A path without components is its own parent. -/
def parent (path : Path) : Path :=
  ⟨path.root, path.components.dropLast⟩

/-- The path to which a text leads from another path. A text with a root leads there by
itself. -/
def join (path : Path) (text : RawText) : Path :=
  let other := ofText text
  match other.root with
  | .relative => ⟨path.root, path.components ++ other.components⟩
  | _ => other

end Path

end ActionHandler.Files
