import ActionHandler.Text.Quoted

/-! # Options of the command line

Some options take a value and some do not. Each has a long spelling, and two have a
short one.
-/

namespace ActionHandler.CommandLine

open Text (RawText RawChar)

/-- The options that take no value. -/
inductive Switch
  | help
  | stdout
  | verbose
  deriving DecidableEq, Repr

/-- The options that take a value. -/
inductive Setting
  | schema
  | operation
  | outputDirectory
  | endpointVariable
  deriving DecidableEq, Repr

/-- The options. -/
inductive Flag
  | switch (kind : Switch)
  | setting (kind : Setting)
  deriving DecidableEq, Repr

namespace Flag

/-- How options are spelled, in the order in which reports list them. -/
def spellings : List (String × Flag) := [
  ("-h", .switch .help),
  ("--help", .switch .help),
  ("--sdl", .setting .schema),
  ("--derive-operation", .setting .operation),
  ("--output-dir", .setting .outputDirectory),
  ("--endpoint-env", .setting .endpointVariable),
  ("--stdout", .switch .stdout),
  ("-v", .switch .verbose),
  ("--verbose", .switch .verbose)]

/-- The option with a given spelling. -/
def ofSpelling? (spelling : RawText) : Option Flag :=
  spelling.text?.bind fun text => spellings.lookup text

/-- The spellings that a text begins, with their options. -/
def completions (text : RawText) : List (String × Flag) :=
  spellings.filter fun (spelling, _) => text.isPrefixOf (spelling : RawText)

/-- How a report names an option: by all its spellings. -/
def title (flag : Flag) : String :=
  String.intercalate "/" ((spellings.filter (·.2 == flag)).map (·.1))

end Flag

/-- The option without a value that a letter stands for behind a single dash. -/
def Switch.ofLetter? (letter : RawChar) : Option Switch :=
  match Flag.ofSpelling? [.char '-', letter] with
  | some (.switch switch) => some switch
  | _ => none

/-- What is wrong with a command line. -/
inductive UsageError
  /-- A shortened option that may be any of several. -/
  | ambiguous (word : RawText) (candidates : List String)
  /-- An option without the value that it takes. -/
  | valueExpected (setting : Setting)
  /-- An option with a value that it does not take. -/
  | valueIgnored (switch : Switch) (text : RawText)
  /-- Arguments that must be given and are not. -/
  | missing (names : List String)
  /-- Words that nothing can be made of. -/
  | unrecognized (words : List RawText)
  deriving DecidableEq, Repr

/-- The words for what is wrong with a command line, as the error output shows them. -/
def UsageError.message : UsageError → String
  | .ambiguous word candidates =>
      "ambiguous option: " ++ Text.Quoted.shown word ++ " could match " ++
        String.intercalate ", " candidates
  | .valueExpected setting =>
      "argument " ++ (Flag.setting setting).title ++ ": expected one argument"
  | .valueIgnored switch text =>
      "argument " ++ (Flag.switch switch).title ++ ": ignored explicit argument " ++
        Text.Quoted.quote text
  | .missing names => "the following arguments are required: " ++ String.intercalate ", " names
  | .unrecognized words =>
      "unrecognized arguments: " ++ String.intercalate " " (words.map Text.Quoted.shown)

end ActionHandler.CommandLine
