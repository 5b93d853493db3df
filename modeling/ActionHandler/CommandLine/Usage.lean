import ActionHandler.Text.LineEnding

/-! # Usage and help texts -/

namespace ActionHandler.CommandLine

/-- The name of the program. -/
def programName : String := "action_codegen"

/-- The lines that say how the program is called. -/
def usageLines : List String := [
  "usage: action_codegen [-h] --sdl SDL [--derive-operation DERIVE_OPERATION]",
  "                      [--output-dir OUTPUT_DIR] [--endpoint-env ENDPOINT_ENV]",
  "                      [--stdout] [-v]",
  "                      action"]

/-- The lines that say what the program does and what its arguments mean. -/
def descriptionLines : List String := [
  "",
  "Generate a serverless handler for a GraphQL action.",
  "",
  "positional arguments:",
  "  action                name of the Mutation field to generate a handler for",
  "",
  "options:",
  "  -h, --help            show this help message and exit",
  "  --sdl SDL             file with the actions SDL",
  "  --derive-operation DERIVE_OPERATION",
  "                        file with a GraphQL operation the handler should proxy",
  "  --output-dir OUTPUT_DIR",
  "                        where to write <action>.js",
  "  --endpoint-env ENDPOINT_ENV",
  "                        env var the generated handler reads the upstream",
  "                        GraphQL URL from",
  "  --stdout              print the handler instead of writing it",
  "  -v, --verbose"]

/-- How the program is called. -/
def usageText : String :=
  Text.unlines usageLines

/-- The help of the program. -/
def helpText : String :=
  Text.unlines (usageLines ++ descriptionLines)

/-- The report of an error in a command line. -/
def usageReport (message : String) : String :=
  usageText ++ programName ++ ": error: " ++ message ++ "\n"

end ActionHandler.CommandLine
