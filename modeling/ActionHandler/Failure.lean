import ActionHandler.Text.Quoted

/-! # Failures of a generation

A failure ends a generation before anything is rendered or written, and is reported
on one line. Failures form families, the widest of which holds them all.
-/

namespace ActionHandler

/-- Why no handler can be generated. -/
inductive Failure
  /-- A failure of no particular kind. -/
  | general (texts : List String)
  /-- A document that is not well formed. -/
  | unparsable (document detail : String)
  /-- Something that a document lacks, of no particular kind. -/
  | lookup (texts : List String)
  /-- The schema declares no mutation type. -/
  | noMutationType
  /-- The mutation type has no field with the name of the action. -/
  | noAction (action : Text.RawText)
  /-- The type that the action returns cannot serve as its output. -/
  | noOutputType (action type : Text.RawText) (reason : String)
  /-- The operation selects no field to take the response from. -/
  | noRootField (reason : String)
  /-- The document is not a single operation. -/
  | unsupportedOperation (reason : String)
  /-- Variables of the operation that the action has no arguments for. -/
  | unboundVariables (action : String) (names : List String)
  deriving DecidableEq, Repr

namespace Failure

/-- The output type has no declaration. -/
def notDefined : String := "is not defined"

/-- The output type is declared as a kind of type that has no fields. -/
def withoutFields : String := "has no fields"

/-- The words for a failure that is known by its texts alone. One text stands for itself,
several are quoted in a row. -/
def summary : List String → String
  | [] => ""
  | [text] => text
  | texts =>
      "(" ++ String.intercalate ", " (texts.map fun text : String => Text.Quoted.quote text) ++ ")"

/-- The words for a failure. -/
def message : Failure → String
  | .general texts => summary texts
  | .unparsable document detail => "Could not parse " ++ document ++ ": " ++ detail
  | .lookup texts => summary texts
  | .noMutationType => "No 'Mutation' type found in the actions SDL"
  | .noAction action =>
      "Action " ++ Text.Quoted.quote action ++ " is not a field of the 'Mutation' type"
  | .noOutputType action type reason =>
      "Output type " ++ Text.Quoted.quote type ++ " of action " ++ Text.Quoted.quote action ++
        " " ++ reason ++ " in the actions SDL"
  | .noRootField reason => "Derive operation has no root field: " ++ reason
  | .unsupportedOperation reason => "Unsupported derive operation: " ++ reason
  | .unboundVariables action names =>
      "Derive operation variables " ++ String.intercalate ", " (names.map ("$" ++ ·)) ++
        " have no matching argument on action " ++ Text.Quoted.quote action

/-- The families of failures. -/
inductive Family
  | general
  | unparsable
  | lookup
  | noMutationType
  | noAction
  | noOutputType
  | noRootField
  | unsupportedOperation
  | unboundVariables
  deriving DecidableEq, Repr

namespace Family

/-- The next wider family. -/
def wider? : Family → Option Family
  | .general => none
  | .unparsable | .lookup | .unboundVariables => some .general
  | .noMutationType | .noAction | .noOutputType | .noRootField | .unsupportedOperation =>
      some .lookup

/-- A family and all wider ones, from the narrowest to the widest. -/
def lineage (family : Family) : List Family :=
  match family.wider? with
  | none => [family]
  | some wider =>
      match wider.wider? with
      | none => [family, wider]
      | some widest => [family, wider, widest]

end Family

/-- The narrowest family that a failure belongs to. -/
def family : Failure → Family
  | .general _ => .general
  | .unparsable .. => .unparsable
  | .lookup _ => .lookup
  | .noMutationType => .noMutationType
  | .noAction _ => .noAction
  | .noOutputType .. => .noOutputType
  | .noRootField _ => .noRootField
  | .unsupportedOperation _ => .unsupportedOperation
  | .unboundVariables .. => .unboundVariables

end Failure

end ActionHandler
