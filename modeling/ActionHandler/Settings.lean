import ActionHandler.Files.Path

/-! # Settings

Where handlers are written and which environment variable they read the address of the
other service from. The environment of the program may set both; an empty value counts
as none. It also decides what can be printed.
-/

namespace ActionHandler

open Text (RawText EncodeError Surrogate)

/-- What standard output takes of the surrogates in a text. -/
inductive Console
  /-- None of them. -/
  | strict
  /-- Those that stand for a byte. -/
  | escaping
  /-- All of them, because what is printed is kept as text. -/
  | keeping
  deriving DecidableEq, Repr

namespace Console

/-- Whether a surrogate can be printed. -/
def allows : Console → Surrogate → Bool
  | .strict, _ => false
  | .escaping, surrogate => surrogate.byte?.isSome
  | .keeping, _ => true

/-- Prints texts one after the other, up to the first that cannot be printed. -/
def print (console : Console) : List RawText → Except EncodeError RawText
  | [] => .ok []
  | text :: rest =>
      match text.encodeError? console.allows with
      | some error => .error error
      | none => (console.print rest).map (text ++ ·)

end Console

/-- The surroundings of the program. -/
structure Environment where
  /-- The values of environment variables by name. -/
  values : List (String × RawText) := []
  /-- What standard output takes. -/
  console : Console := .strict
  deriving DecidableEq, Repr

/-- What a generation can be set to. -/
structure Settings where
  outputDirectory : Files.Path
  endpointVariable : RawText
  deriving DecidableEq, Repr

namespace Settings

/-- The environment variable for the output directory. -/
def outputDirectoryKey : String := "ACTION_CODEGEN_OUTPUT_DIR"

/-- The environment variable for the name of the endpoint variable. -/
def endpointVariableKey : String := "ACTION_CODEGEN_ENDPOINT_ENV"

/-- The output directory when none is set. -/
def defaultOutputDirectory : String := "generated"

/-- The endpoint variable when none is set. -/
def defaultEndpointVariable : String := "HASURA_GRAPHQL_URL"

/-- A text, or another one if it is missing or empty. -/
def nonEmptyOr (fallback : RawText) : Option RawText → RawText
  | none => fallback
  | some text => if text = "" then fallback else text

/-- The settings that an environment asks for. -/
def ofEnvironment (environment : Environment) : Settings where
  outputDirectory :=
    .ofText (nonEmptyOr defaultOutputDirectory (environment.values.lookup outputDirectoryKey))
  endpointVariable :=
    nonEmptyOr defaultEndpointVariable (environment.values.lookup endpointVariableKey)

end Settings

end ActionHandler
