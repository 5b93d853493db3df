import ActionHandler.Proofs.CommandLine.Atomicity
import ActionHandler.Proofs.CommandLine.Options

/-! # Printing and writing

A command line that prints a handler and the same command line without that option go
together: what the one prints the other writes, and where the one fails the other fails in
the same way. Only the output directory and texts that cannot be encoded can come between them.
-/

namespace ActionHandler.CommandLine

open Files Files.FileTree Graphql Handler
open Text (RawText EncodeError)

variable {start : Location} {request : Request} {settings : Settings} {console : Console}
  {texts : List RawText} {environment : Environment} {operand : Operand RawText}
  {action log schema : String} {content : RawText} {operation : Option String}
  {artifacts : List (Artifact RawText)} {before middle after : FileTree start}
  {outcome : Outcome} {interruption : Interruption}

/-- The first text that is there and not empty. -/
def firstNonEmpty (texts : List (Option RawText)) : Option RawText :=
  texts.findSome? (·.filter (· ≠ ""))

/-- A text counts over what follows it, unless it is missing or empty. -/
theorem firstNonEmpty_cons {fallback : RawText} {rest : List (Option RawText)}
    (hrest : firstNonEmpty rest = some fallback) (text : Option RawText) :
    firstNonEmpty (text :: rest) = some (Settings.nonEmptyOr fallback text) := by
  unfold firstNonEmpty at hrest ⊢
  cases text with
  | none => simpa [Settings.nonEmptyOr] using hrest
  | some text =>
      by_cases hempty : text = ""
      · simpa [Settings.nonEmptyOr, hempty] using hrest
      · simp [Settings.nonEmptyOr, hempty]

/-- The output directory: what the option is given, or else what the environment says, or
else the default. -/
def outputOperand (texts : List RawText) (environment : Environment) :
    Option (Operand RawText) :=
  (lastGiven texts .outputDirectory).or
    ((firstNonEmpty [environment.values.lookup "ACTION_CODEGEN_OUTPUT_DIR",
      some "generated"]).map .value)

/-- The variable with the endpoint: the option counts if it is not empty, and then the
environment if it is not empty. -/
def endpointText (texts : List RawText) (environment : Environment) : Option RawText :=
  firstNonEmpty [(lastGiven texts .endpointVariable).bind Operand.value?,
    environment.values.lookup "ACTION_CODEGEN_ENDPOINT_ENV", some "HASURA_GRAPHQL_URL"]

/-- A request writes where its command line and its environment say. -/
theorem Request.Holds.outputOperand_eq (hholds : request.Holds texts) (environment : Environment) :
    ∃ operand, outputOperand texts environment = some operand ∧
      request.directoryOver (.ofEnvironment environment) = operand.path := by
  have hdefault : firstNonEmpty [some "generated"] = some "generated" := by decide
  rw [Request.directoryOver, hholds.outputDirectory, outputOperand]
  cases lastGiven texts .outputDirectory with
  | some operand => exact ⟨operand, rfl, rfl⟩
  | none => exact ⟨_, by rw [firstNonEmpty_cons hdefault]; rfl, rfl⟩

/-- A request has the endpoint variable that its command line and its environment say. -/
theorem Request.Holds.endpointText_eq (hholds : request.Holds texts) (environment : Environment) :
    endpointText texts environment = some (request.endpointOver (.ofEnvironment environment)) := by
  have hdefault : firstNonEmpty [some "HASURA_GRAPHQL_URL"] = some "HASURA_GRAPHQL_URL" := by
    decide
  rw [endpointText, firstNonEmpty_cons (firstNonEmpty_cons hdefault _),
    Request.endpointOver, hholds.endpointVariable]
  rfl

/-- That the file with a given name holds a text, apart from how its lines end. -/
def HoldsText (tree : FileTree start) (name : RawText) (text : String) : Prop :=
  ∃ bytes decoded, tree.read (.ofText name) = .ok bytes ∧
    Text.Utf8.decode bytes = .ok decoded ∧
    text = String.ofList (Text.unifyLineEndings decoded)

/-- What is read from a file is the text that it holds. -/
theorem holdsText_of_loadText {name : RawText} {text : String}
    (hload : FileAction.on (loadText (.ofText name)) before = (.ok text, after)) :
    HoldsText before name text := by
  obtain ⟨_, _, bytes, hread, hdecode⟩ := loadText_eq_ok_iff.mp hload
  unfold decodeText at hdecode
  split at hdecode
  next => cases hdecode
  next decoded hdecoded => exact ⟨bytes, decoded, hread, hdecoded, (Except.ok.inj hdecode).symm⟩

/-- That a schema and an operation are the texts of the files that a command line names. -/
structure Names (texts : List RawText) (tree : FileTree start) (operation : Option String)
    (schema : String) : Prop where
  schema : ∃ name, lastGiven texts .schema = some (.value name) ∧ HoldsText tree name schema
  no_operation : lastGiven texts .operation = none → operation = none
  operation : ∀ operand, lastGiven texts .operation = some operand → ∃ name text,
    operand = .value name ∧ operation = some text ∧ HoldsText tree name text

/-- What a request reads is what its command line names. -/
theorem Loads.names (hloads : Loads request before operation schema)
    (hholds : request.Holds texts) : Names texts before operation schema := by
  have hvalue : ∀ operand path, Operand.path operand = .value path →
      ∃ name, operand = .value name ∧ path = .ofText name := by
    rintro (_ | name) path hoperand
    · cases hoperand
    · cases hoperand
      exact ⟨name, rfl, rfl⟩
  refine ⟨?_, ?_, ?_⟩
  · obtain ⟨path, hschema, hload⟩ := hloads.schema
    obtain ⟨operand, hgiven, hoperand⟩ := Option.map_eq_some_iff.mp hholds.schema
    obtain ⟨name, rfl, rfl⟩ := hvalue operand path (hoperand.trans hschema)
    exact ⟨name, hgiven, holdsText_of_loadText hload⟩
  · intro hnone
    exact hloads.no_operation (by rw [hholds.operation, hnone]; rfl)
  · intro operand hgiven
    obtain ⟨path, text, hoperand, htext, hload⟩ :=
      hloads.operation operand.path (by rw [hholds.operation, hgiven]; rfl)
    obtain ⟨name, rfl, rfl⟩ := hvalue operand path hoperand
    exact ⟨name, text, rfl, htext, holdsText_of_loadText hload⟩

/-- How a run ends that writes a given content behind a log. -/
inductive Written (console : Console) (action : String) (content : RawText) (log : String) :
    Operand RawText → Outcome → FileTree start → Prop
  | done {directory : RawText} {text : String} {after : FileTree start}
      (hclear : (Path.ofText directory).fault? = none) (hcontent : content = text)
      (hread : after.read ((Path.ofText directory).handlerBelow action) =
        .ok (Text.Utf8.encode text.toList))
      (htakes : console.Takes ((Path.ofText directory).handlerBelow action).text) :
      Written console action content log (.value directory)
        (.finished 0 ("Generated " ++ ((Path.ofText directory).handlerBelow action).text ++ "\n")
          log) after
  | failed {directory : RawText} {error : OsError} {after : FileTree start}
      (hclear : (Path.ofText directory).fault? = none)
      (hpath : error.path.Begins ((Path.ofText directory).handlerBelow action)) :
      Written console action content log (.value directory)
        (.finished 1 "" (log ++ "error: " ++ error.message ++ "\n")) after
  | blank {after : FileTree start} :
      Written console action content log .blank (.aborted .blankDirectory log) after
  | faulty {directory : RawText} {fault : Fault} {after : FileTree start}
      (hfault : (Path.ofText directory).fault? = some fault) :
      Written console action content log (.value directory) (.aborted fault log) after
  /-- The content cannot be encoded: an empty file is left. -/
  | torn {directory : RawText} {error : EncodeError} {after : FileTree start}
      (hclear : (Path.ofText directory).fault? = none) (hencode : content.encode = .error error)
      (hread : after.read ((Path.ofText directory).handlerBelow action) = .ok []) :
      Written console action content log (.value directory)
        (.aborted (.unencodable error) log) after
  /-- The line about the file cannot be printed: the file is there. -/
  | unreported {directory : RawText} {text : String} {error : EncodeError}
      {after : FileTree start} (hclear : (Path.ofText directory).fault? = none)
      (hcontent : content = text)
      (hread : after.read ((Path.ofText directory).handlerBelow action) =
        .ok (Text.Utf8.encode text.toList))
      (herror : RawText.encodeError? console.allows
        ("Generated " ++ ((Path.ofText directory).handlerBelow action).text) = some error) :
      Written console action content log (.value directory)
        (.aborted (.unencodable error) log) after

/-- A handler that is not written is not written for one of these reasons. -/
theorem written_of_error (hname : IsName action) {directory : RawText}
    (herror : FileAction.on (writeArtifacts (Path.ofText directory)
      [⟨some (fileName action), some content⟩]) before = (.error interruption, after)) :
    Written console action content log (.value directory) (.ofInterruption log interruption)
      after := by
  cases unsaved_of_writeArtifacts_error hname herror with
  | faulty hfault => exact .faulty hfault
  | failed hclear hpath => exact .failed hclear hpath
  | torn hencode hsaves => exact .torn hsaves.opens.clear hencode hsaves.read

/-- A handler that is saved is reported, if its path can be printed. -/
theorem written_of_saves {directory : RawText} {text : String}
    (hsaves : Saves (Path.ofText directory) action text before middle after) :
    Written console action text log (.value directory)
      (.ofPrinting log (console.print (writtenLine ((Path.ofText directory).handlerBelow action))))
      after := by
  rcases takes_or_error_writtenLine console ((Path.ofText directory).handlerBelow action) with
    htakes | ⟨error, herror⟩
  · rw [ofPrinting_writtenLine_of_takes htakes]
    exact .done hsaves.opens.clear rfl hsaves.read htakes
  · rw [ofPrinting_writtenLine_of_error herror]
    exact .unreported hsaves.opens.clear rfl hsaves.read herror

/-- A request that writes ends in one of these ways when its content is settled. -/
theorem written_of_fulfilled (hfulfilled : Fulfilled request settings console before outcome after)
    (hwrites : request.toStdout = false)
    (hload : FileAction.on (loadInputs request) before = (.ok (operation, schema), before))
    (hname : IsName action)
    (hgenerate : (request.generation settings operation schema).result =
      .ok [⟨fileName action, content⟩])
    (hoperand : request.directoryOver settings = operand.path) :
    Written console action content (request.log settings operation schema) operand outcome
      after := by
  cases hfulfilled with
  | unread hload' => cases hload.symm.trans hload'
  | refused hload' hgenerate' =>
      cases hload.symm.trans hload'
      cases hgenerate.symm.trans hgenerate'
  | printed _ _ hprints => exact absurd (hprints.symm.trans hwrites) (by decide)
  | unwritten hload' hgenerate' _ hwrite =>
      cases hload.symm.trans hload'
      cases hgenerate.symm.trans hgenerate'
      rw [hoperand] at hwrite
      cases operand with
      | blank =>
          rw [Operand.path, on_writeUnder_blank] at hwrite
          cases hwrite
          exact .blank
      | value directory =>
          rw [Operand.path, on_writeUnder_value] at hwrite
          exact written_of_error hname hwrite
  | written hload' hgenerate' _ hwrite =>
      cases hload.symm.trans hload'
      cases hgenerate.symm.trans hgenerate'
      obtain ⟨path, hpath, rfl, text, rfl, middle, hsaves⟩ :=
        (writeUnder_eq_ok_iff hname).mp hwrite
      rw [List.flatMap_singleton]
      cases operand with
      | blank => cases hoperand.symm.trans hpath
      | value directory =>
          cases hoperand.symm.trans hpath
          exact written_of_saves hsaves

/-- That a command line makes a handler with a given content of the texts that it names. -/
structure Makes (texts : List RawText) (environment : Environment) (action : RawText)
    (name : String) (content : RawText) (tree : FileTree start) : Prop where
  isAction : action = name
  generates : ∃ operation schema endpointVariable, Names texts tree operation schema ∧
    endpointText texts environment = some endpointVariable ∧
    (generate action schema operation endpointVariable).result =
      .ok [⟨name ++ ".js", content⟩]

/-- That a run that prints the handler of an action and a run that writes it go together. -/
inductive Agreement (texts : List RawText) (environment : Environment) (action : RawText)
    (before : FileTree start) : Outcome × FileTree start → Outcome × FileTree start → Prop
  /-- The handler is printed, and written if its place and its text allow it. -/
  | printed {name : String} {content : RawText} {log : String} {operand : Operand RawText}
      {written : Outcome × FileTree start}
      (hmakes : Makes texts environment action name content before)
      (htakes : environment.console.Takes content)
      (hoperand : outputOperand texts environment = some operand)
      (hwritten : Written environment.console name content log operand written.1 written.2) :
      Agreement texts environment action before (.finished 0 content log, before) written
  /-- The handler cannot be printed, and so it cannot be written either. -/
  | unprintable {name : String} {content : RawText} {log : String} {operand : Operand RawText}
      {error : EncodeError} {written : Outcome × FileTree start}
      (hmakes : Makes texts environment action name content before)
      (herror : content.encodeError? environment.console.allows = some error)
      (hoperand : outputOperand texts environment = some operand)
      (hwritten : Written environment.console name content log operand written.1 written.2) :
      Agreement texts environment action before (.aborted (.unencodable error) log, before)
        written
  /-- There is no handler: both runs end the same way and change nothing. -/
  | failed {outcome : Outcome} (hfailed : ¬ outcome.Succeeded) :
      Agreement texts environment action before (outcome, before) (outcome, before)

/-- Asking for printing first is all that is different about a request. -/
theorem Request.ofTexts_stdout (hrequest : Request.ofTexts texts = .ok request) :
    Request.ofTexts ("--stdout" :: texts) = .ok { request with toStdout := true } := by
  have hswitched := Request.ofTexts_switches (by decide) (show Word.ofText "--stdout" =
    .ok (.switches [.stdout]) by rfl) (show Draft.empty.switchOn [.stdout] =
      .ok (Draft.empty.switched true 0) by rfl) hrequest
  simpa using hswitched

/-- A run without printing goes together with the same run with printing. -/
theorem printed_and_written_agree (hrequest : Request.ofTexts texts = .ok request)
    (hwrites : request.toStdout = false) :
    Agreement texts environment request.action before
      (runOn ("--stdout" :: texts) environment before) (runOn texts environment before) := by
  have hholds := Request.holds_of_ofTexts hrequest
  have hprinted := runOn_fulfilled (Request.ofTexts_stdout hrequest) environment before
  have hwritten := runOn_fulfilled hrequest environment before
  -- Both requests read and generate the same, whatever they do with the content.
  generalize runOn ("--stdout" :: texts) environment before = printed at hprinted ⊢
  obtain ⟨outcome, after⟩ := printed
  dsimp only at hprinted
  cases hprinted with
  | unread hload =>
      rw [runOn_of_fulfilled hrequest (.unread hload)]
      exact .failed (not_succeeded_ofInterruption _ _)
  | refused hload hgenerate =>
      rw [runOn_of_fulfilled hrequest (.refused hload hgenerate)]
      exact .failed (not_succeeded_ofInterruption _ _)
  | @printed operation schema artifacts hload hgenerate _ =>
      have hload : FileAction.on (loadInputs request) before =
          (.ok (operation, schema), before) := hload
      obtain ⟨action, content, haction, hname, rfl⟩ :=
        Generation.exists_name_of_generate hgenerate
      obtain ⟨operand, hoperand, hdirectory⟩ := hholds.outputOperand_eq environment
      have hmakes : Makes texts environment request.action action content before := by
        have hloads := loads_of_loadInputs hload
        exact ⟨haction, operation, schema, _, hloads.names hholds,
          hholds.endpointText_eq environment, hgenerate⟩
      have hwritten := written_of_fulfilled hwritten hwrites hload hname hgenerate hdirectory
      rw [List.map_singleton]
      cases herror : content.encodeError? environment.console.allows with
      | none =>
          rw [ofPrinting_singleton_of_takes herror]
          exact .printed hmakes herror hoperand hwritten
      | some error =>
          rw [ofPrinting_singleton_of_error herror]
          exact .unprintable hmakes herror hoperand hwritten
  | unwritten _ _ hwrites' _ => cases hwrites'
  | written _ _ hwrites' _ => cases hwrites'

/-- A command line can print and cannot write, without an error of the file system: its output
directory is left blank or has a NUL in it, or its endpoint variable has a byte in it that is no
part of a character. -/
theorem printed_and_aborted :
    ((∃ content log, (runOn ["--stdout", "a", "--sdl", "s", "--output-dir=--"]
        { console := .keeping } oldHandler).1 = .finished 0 content log) ∧
      (runOn ["a", "--sdl", "s", "--output-dir=--"] { console := .keeping } oldHandler).1 =
        .aborted .blankDirectory "") ∧
    ((∃ content log, (runOn ["--stdout", "a", "--sdl", "s", "--output-dir", "\x00"]
        { console := .keeping } oldHandler).1 = .finished 0 content log) ∧
      (runOn ["a", "--sdl", "s", "--output-dir", "\x00"] { console := .keeping } oldHandler).1 =
        .aborted .nulInPath "") ∧
    (∃ content log, (runOn ["--stdout", "a", "--sdl", "s", "--derive-operation", "o",
        "--endpoint-env", [.surrogate 0x4FF]] { console := .keeping } oldHandler).1 =
          .finished 0 content log) ∧
      (runOn ["a", "--sdl", "s", "--derive-operation", "o", "--endpoint-env", [.surrogate 0x4FF]]
        { console := .keeping } oldHandler).1 = .aborted (.unencodable ⟨0x4FF, 156, 1⟩) "" := by
  have hblank : Request.ofTexts ["--stdout", "a", "--sdl", "s", "--output-dir=--"] =
      .ok ⟨"a", .value ⟨.relative, ["s"]⟩, none, some .blank, none, true, 0⟩ :=
    ok_of_toOption (by decide +kernel)
  have hnul : Request.ofTexts ["--stdout", "a", "--sdl", "s", "--output-dir", "\x00"] =
      .ok ⟨"a", .value ⟨.relative, ["s"]⟩, none, some (.value ⟨.relative, ["\x00"]⟩), none, true,
        0⟩ :=
    ok_of_toOption (by decide +kernel)
  have hbyte : Request.ofTexts ["--stdout", "a", "--sdl", "s", "--derive-operation", "o",
      "--endpoint-env", [.surrogate 0x4FF]] =
      .ok ⟨"a", .value ⟨.relative, ["s"]⟩, some (.value ⟨.relative, ["o"]⟩), none,
        some [.surrogate 0x4FF], true, 0⟩ :=
    ok_of_toOption (by decide +kernel)
  exact ⟨⟨finished_of_keeping hblank rfl rfl (by decide +kernel), by decide +kernel⟩,
    ⟨finished_of_keeping hnul rfl rfl (by decide +kernel), by decide +kernel⟩,
    finished_of_keeping hbyte rfl rfl (by decide +kernel), by decide +kernel⟩

/-- The last output directory counts, even if the way to it leaves another one again. -/
theorem printed_and_written_agree_through_parent :
    ∃ content log,
      (runOn ["--stdout", "a", "--sdl", "s", "--output-dir=x", "--output-dir", "y/../z"]
        { console := .keeping } twoActions).1 = .finished 0 content log ∧
      ∃ text : String, content = text ∧
        (runOn ["a", "--sdl", "s", "--output-dir=x", "--output-dir", "y/../z"]
          { console := .keeping } twoActions).2.read ⟨.relative, ["y", "..", "z", "a.js"]⟩ =
            .ok (Text.Utf8.encode text.toList) := by
  have hrequest : Request.ofTexts
      ["a", "--sdl", "s", "--output-dir=x", "--output-dir", "y/../z"] =
        .ok ⟨"a", .value ⟨.relative, ["s"]⟩, none, some (.value ⟨.relative, ["y", "..", "z"]⟩),
          none, false, 0⟩ :=
    ok_of_toOption (by decide +kernel)
  have hended : (runOn ["a", "--sdl", "s", "--output-dir=x", "--output-dir", "y/../z"]
      { console := .keeping } twoActions).1 = .finished 0 "Generated y/../z/a.js\n" "" := by
    decide +kernel
  have hdirectory : outputOperand
      ["a", "--sdl", "s", "--output-dir=x", "--output-dir", "y/../z"] { console := .keeping } =
        some (.value "y/../z") := by decide +kernel
  have hpath : (Path.ofText "y/../z").handlerBelow "a" =
      ⟨.relative, ["y", "..", "z", "a.js"]⟩ := by decide +kernel
  have hagreement : Agreement _ { console := .keeping } "a" twoActions _ _ :=
    printed_and_written_agree hrequest rfl
  generalize runOn ["a", "--sdl", "s", "--output-dir=x", "--output-dir", "y/../z"]
    { console := .keeping } twoActions = written at hended hagreement ⊢
  cases hprinted : runOn ["--stdout", "a", "--sdl", "s", "--output-dir=x", "--output-dir",
      "y/../z"] { console := .keeping } twoActions with
  | mk outcome after =>
      rw [hprinted] at hagreement
      cases hagreement with
      | @printed name content log operand written hmakes htakes hoperand hwritten =>
          cases hdirectory.symm.trans hoperand
          obtain rfl : "a" = name := RawText.ofString_inj.mp hmakes.isAction
          obtain ⟨outcome, after⟩ := written
          obtain rfl : outcome = _ := hended
          generalize hended : Outcome.finished 0 "Generated y/../z/a.js\n" "" = outcome
            at hwritten
          cases hwritten with
          | @done _ text _ _ hcontent hread =>
              rw [hpath] at hread
              exact ⟨content, log, rfl, text, hcontent, hread⟩
          | failed => cases hended
          | faulty => cases hended
          | torn => cases hended
          | unreported => cases hended
      | unprintable _ herror =>
          cases (Console.takes_keeping _).symm.trans herror
      | failed hfailed =>
          obtain rfl : outcome = _ := hended
          exact absurd rfl hfailed

end ActionHandler.CommandLine
