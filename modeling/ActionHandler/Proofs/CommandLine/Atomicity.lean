import ActionHandler.Proofs.CommandLine.Delivery

/-! # Atomicity of runs

A run that fails before it opens the file of its handler leaves all files as they were and no new
ones. It may leave directories that it has made on the way to a double dot, or before it met a
name or a path that is too long; otherwise it leaves the tree as it was, and so does every run
that only prints.

A run may also fail late: when the text for the file turns out not to be encodable, an empty file
is left, and when the line about the file cannot be printed, the file is left with its text. Then
the file is all that has changed, with the directories on the way to it. A run whose endpoint
variable is a string and whose output directory can be printed never fails late.
-/

namespace ActionHandler.CommandLine

open Files Files.FileTree Graphql Handler
open Text (RawText EncodeError)

variable {start : Location}

/-- That there is no double dot on the way to the directory that a request writes to. -/
def Request.StaysBelow (request : Request) (settings : Settings) : Prop :=
  ∀ directory, request.directoryOver settings = .value directory → ↑".." ∉ directory.components

/-- That what a request generates cannot be written because a name or a path is too long. -/
def Request.Overlong (request : Request) (settings : Settings) (before : FileTree start) : Prop :=
  ∃ operation schema artifacts path,
    FileAction.on (loadInputs request) before = (.ok (operation, schema), before) ∧
    (request.generation settings operation schema).result = .ok artifacts ∧
    (FileAction.on (writeUnder (request.directoryOver settings) artifacts) before).1 =
      .error (.system ⟨.nameTooLong, path⟩)

/-- That a request is not fulfilled only after it has opened the file of its handler, and which
text it leaves there. -/
inductive Request.FailsLate (request : Request) (settings : Settings) (console : Console)
    (before : FileTree start) : String → Prop
  /-- The file has been opened, and its text cannot be encoded. -/
  | torn {operation : Option String} {schema action : String} {content : RawText}
      {directory : Path} {error : EncodeError} {middle after : FileTree start}
      (hloads : Loads request before operation schema)
      (hgenerate : (request.generation settings operation schema).result =
        .ok [⟨fileName action, content⟩])
      (hwrites : request.toStdout = false)
      (hdirectory : request.directoryOver settings = .value directory)
      (hencode : content.encode = .error error)
      (hsaves : Saves directory action "" before middle after) :
      FailsLate request settings console before ""
  /-- The file has been written, and the line about it cannot be printed. -/
  | unreported {delivery : Delivery} {middle after : FileTree start}
      (hdelivers : Delivers request settings delivery before middle after)
      (hwrites : request.toStdout = false)
      (hpath : ¬ console.Takes (delivery.directory.handlerBelow delivery.action).text) :
      FailsLate request settings console before delivery.content

/-- That all that a request takes from outside can be encoded where it is written. -/
structure Request.Encodes (request : Request) (settings : Settings) (console : Console) :
    Prop where
  endpoint : ∃ text : String, request.endpointOver settings = text
  directory : ∀ directory, request.directoryOver settings = .value directory →
    ∀ component ∈ directory.components, console.Takes component

/-- What a run that fails, only prints or is refused leaves of a file tree. -/
structure Atomic (texts : List RawText) (environment : Environment) (before : FileTree start)
    (outcome : Outcome) (after : FileTree start) : Prop where
  /-- A run that fails, and not late, keeps all files with their bytes, adds none, and removes no
  directory. -/
  keeps : ¬ outcome.Succeeded →
    (∀ request text, Request.ofTexts texts = .ok request →
      ¬ request.FailsLate (.ofEnvironment environment) environment.console before text) →
    before.Keeps after
  /-- A run that fails, and not late, changes nothing when no double dot is on the way to its
  directory and no name or path is too long. -/
  unchanged : ¬ outcome.Succeeded →
    (∀ request, Request.ofTexts texts = .ok request →
      request.StaysBelow (.ofEnvironment environment) ∧
        ¬ request.Overlong (.ofEnvironment environment) before ∧
        ∀ text, ¬ request.FailsLate (.ofEnvironment environment) environment.console before
          text) →
    after = before
  /-- A run that fails late leaves its file and nothing else. -/
  late : ∀ request text, Request.ofTexts texts = .ok request →
    request.FailsLate (.ofEnvironment environment) environment.console before text →
    ¬ outcome.Succeeded ∧ ∃ (action : String) (directory : Path),
      request.action = action ∧
      request.directoryOver (.ofEnvironment environment) = .value directory ∧
      Confined directory action text before after
  /-- A run does not fail late when all that it takes from outside can be encoded. -/
  prompt : ∀ request text, Request.ofTexts texts = .ok request →
    request.Encodes (.ofEnvironment environment) environment.console →
    ¬ request.FailsLate (.ofEnvironment environment) environment.console before text
  /-- A run that only prints changes nothing. -/
  unchanged_of_stdout : ∀ request, Request.ofTexts texts = .ok request →
    request.toStdout = true → after = before
  /-- A run whose command line leads to no request changes nothing. -/
  unchanged_of_refusal : ∀ refusal, Request.ofTexts texts = .error refusal → after = before

variable {request : Request} {settings : Settings} {console : Console}
  {before middle after : FileTree start} {outcome : Outcome} {action schema text : String}
  {operation : Option String} {content : RawText} {artifacts : List (Artifact RawText)}
  {directory : Path} {operand : Operand Path} {interruption : Interruption} {error : EncodeError}

/-- Writing what has been generated fails as writing some string does, or late. -/
theorem string_or_torn (hgenerate : (request.generation settings operation schema).result =
      .ok artifacts)
    (herror : FileAction.on (writeUnder operand artifacts) before =
      (.error interruption, after)) :
    (∃ (action text : String), IsName action ∧
      FileAction.on (writeUnder operand [⟨fileName action, text⟩]) before =
        (.error interruption, after)) ∨
    ∃ (action : String) (content : RawText) (directory : Path) (error : EncodeError)
        (middle : FileTree start),
      request.action = action ∧ artifacts = [⟨fileName action, content⟩] ∧
      operand = .value directory ∧ content.encode = .error error ∧
      interruption = .fault (.unencodable error) ∧
      Saves directory action "" before middle after := by
  obtain ⟨action, content, haction, hname, rfl⟩ := Generation.exists_name_of_generate hgenerate
  cases operand with
  | blank =>
      refine .inl ⟨action, "", hname, ?_⟩
      rw [on_writeUnder_blank] at herror ⊢
      exact herror
  | value directory =>
      rw [on_writeUnder_value] at herror
      rcases string_or_torn_of_writeArtifacts_error hname herror with
        ⟨text, hstring⟩ | ⟨error, middle, hencode, rfl, hsaves⟩
      · exact .inl ⟨action, text, hname, hstring⟩
      · exact .inr ⟨action, content, directory, error, middle, haction, rfl, rfl, hencode, rfl,
          hsaves⟩

/-- Writing a string keeps all files and directories if it fails. -/
theorem writeUnder_string_keeps {name : String}
    (herror : FileAction.on (writeUnder operand [⟨name, text⟩]) before =
      (.error interruption, after)) : before.Keeps after := by
  cases operand with
  | blank =>
      rw [on_writeUnder_blank] at herror
      cases herror
      exact .refl _
  | value directory =>
      rw [on_writeUnder_value] at herror
      exact writeArtifacts_error_keeps herror

/-- Without a double dot on the way, writing a string fails without a change, or because of a
length. -/
theorem writeUnder_string_unchanged (haction : IsName action)
    (hbelow : ∀ directory, operand = .value directory → ↑".." ∉ directory.components)
    (herror : FileAction.on (writeUnder operand [⟨fileName action, text⟩]) before =
      (.error interruption, after)) :
    after = before ∨ ∃ path, interruption = .system ⟨.nameTooLong, path⟩ := by
  cases operand with
  | blank =>
      rw [on_writeUnder_blank] at herror
      cases herror
      exact .inl rfl
  | value directory =>
      rw [on_writeUnder_value] at herror
      exact writeArtifacts_error_unchanged haction (hbelow directory rfl) herror

namespace Fulfilled

/-- A run that has written its handler succeeds, or fails late. -/
theorem succeeded_or_failsLate {paths : List Path}
    (hload : FileAction.on (loadInputs request) before = (.ok (operation, schema), before))
    (hgenerate : (request.generation settings operation schema).result = .ok artifacts)
    (hwrites : request.toStdout = false)
    (hwrite : FileAction.on (writeUnder (request.directoryOver settings) artifacts) before =
      (.ok paths, after)) (log : String) :
    (Outcome.ofPrinting log (console.print (paths.flatMap writtenLine))).Succeeded ∨
      ∃ text, request.FailsLate settings console before text := by
  obtain ⟨delivery, middle, hdelivers, rfl, rfl, rfl⟩ :=
    exists_delivers_of_written hload hgenerate hwrite
  rw [List.flatMap_singleton]
  by_cases htakes : console.Takes (delivery.directory.handlerBelow delivery.action).text
  · rw [ofPrinting_writtenLine_of_takes htakes]
    exact .inl rfl
  · exact .inr ⟨_, .unreported hdelivers hwrites htakes⟩

/-- A request that is not fulfilled, and does not fail late, has changed nothing, or else it has
failed as writing some string does. -/
theorem unchanged_or_string
    (hfulfilled : Fulfilled request settings console before outcome after)
    (hfailed : ¬ outcome.Succeeded)
    (hlate : ∀ text, ¬ request.FailsLate settings console before text) :
    after = before ∨ ∃ (action text : String) (interruption : Interruption), IsName action ∧
      FileAction.on (writeUnder (request.directoryOver settings) [⟨fileName action, text⟩])
        before = (.error interruption, after) ∧
      ∀ path, interruption = .system ⟨.nameTooLong, path⟩ → request.Overlong settings before := by
  cases hfulfilled with
  | unread => exact .inl rfl
  | refused => exact .inl rfl
  | printed => exact .inl rfl
  | unwritten hload hgenerate hwrites hwrite =>
      rcases string_or_torn hgenerate hwrite with ⟨action, text, hname, hstring⟩ |
        ⟨action, content, directory, error, middle, _, rfl, hdirectory, hencode, _, hsaves⟩
      · refine .inr ⟨action, text, _, hname, hstring, ?_⟩
        rintro path rfl
        exact ⟨_, _, _, path, hload, hgenerate, congrArg Prod.fst hwrite⟩
      · exact absurd (.torn (loads_of_loadInputs hload) hgenerate hwrites hdirectory hencode
          hsaves) (hlate _)
  | written hload hgenerate hwrites hwrite =>
      rcases succeeded_or_failsLate hload hgenerate hwrites hwrite _ with
        hsucceeded | ⟨text, hfails⟩
      · exact absurd hsucceeded hfailed
      · exact absurd hfails (hlate text)

/-- A request that is not fulfilled, and does not fail late, keeps all files and directories. -/
theorem keeps (hfulfilled : Fulfilled request settings console before outcome after)
    (hfailed : ¬ outcome.Succeeded)
    (hlate : ∀ text, ¬ request.FailsLate settings console before text) : before.Keeps after := by
  rcases unchanged_or_string hfulfilled hfailed hlate with rfl | ⟨_, _, _, _, hstring, _⟩
  · exact .refl _
  · exact writeUnder_string_keeps hstring

/-- A request that is not fulfilled, and does not fail late, changes nothing unless there is a
double dot or a length in the way. -/
theorem unchanged (hfulfilled : Fulfilled request settings console before outcome after)
    (hfailed : ¬ outcome.Succeeded) (hbelow : request.StaysBelow settings)
    (hlength : ¬ request.Overlong settings before)
    (hlate : ∀ text, ¬ request.FailsLate settings console before text) : after = before := by
  rcases unchanged_or_string hfulfilled hfailed hlate with
    hunchanged | ⟨_, _, _, hname, hstring, hoverlong⟩
  · exact hunchanged
  · obtain hunchanged | ⟨path, hlong⟩ := writeUnder_string_unchanged hname hbelow hstring
    · exact hunchanged
    · exact absurd (hoverlong path hlong) hlength

theorem unchanged_of_stdout (hfulfilled : Fulfilled request settings console before outcome after)
    (hstdout : request.toStdout = true) : after = before := by
  cases hfulfilled with
  | unread => rfl
  | refused => rfl
  | printed => rfl
  | unwritten _ _ hwrites _ => exact absurd (hstdout.symm.trans hwrites) (by decide)
  | written _ _ hwrites _ => exact absurd (hstdout.symm.trans hwrites) (by decide)

end Fulfilled

variable {texts : List RawText} {environment : Environment}

/-- A run that fails late leaves its file and nothing else. -/
theorem late_of_failsLate (hrequest : Request.ofTexts texts = .ok request)
    (hlate : request.FailsLate (.ofEnvironment environment) environment.console before text) :
    ¬ (runOn texts environment before).1.Succeeded ∧ ∃ (action : String) (directory : Path),
      request.action = action ∧
      request.directoryOver (.ofEnvironment environment) = .value directory ∧
      Confined directory action text before (runOn texts environment before).2 := by
  cases hlate with
  | @torn operation schema name content directory error middle after hloads hgenerate hwrites
      hdirectory hencode hsaves =>
      obtain ⟨haction, hname⟩ := action_of_generation hgenerate
      have hwrite : FileAction.on
          (writeUnder (request.directoryOver (.ofEnvironment environment))
            [⟨fileName name, content⟩]) before =
          (.error (.fault (.unencodable error)), after) := by
        rw [hdirectory, on_writeUnder_value]
        exact on_writeArtifacts_of_saves hname hencode hsaves
      rw [runOn_of_fulfilled hrequest
        (.unwritten hloads.on_loadInputs hgenerate hwrites hwrite)]
      dsimp only
      exact ⟨not_succeeded_ofInterruption _ _, name, directory, haction, hdirectory,
        hsaves.confined⟩
  | @unreported delivery middle after hdelivers hwrites hpath =>
      rw [runOn_of_delivers hrequest hwrites hdelivers]
      rcases takes_or_error_writtenLine environment.console
        (delivery.directory.handlerBelow delivery.action) with htakes | ⟨error, herror⟩
      · exact absurd htakes hpath
      · rw [ofPrinting_writtenLine_of_error herror]
        exact ⟨id, delivery.action, delivery.directory, hdelivers.action, hdelivers.directory,
          hdelivers.saves.confined⟩

/-- A path is printed when its components are. -/
theorem takes_text {path : Path} (hcomponents : ∀ component ∈ path.components,
    console.Takes component) : console.Takes path.text := by
  refine RawText.encodeError?_eq_none_iff.mpr fun value hvalue => ?_
  have htext := path.mem_text_iff (.surrogate value) nofun nofun
  obtain ⟨component, hmem, hpoint⟩ := htext.mp hvalue
  exact RawText.encodeError?_eq_none_iff.mp (hcomponents component hmem) value hpoint

/-- Where there is nothing that cannot be encoded, no request fails late. -/
theorem not_failsLate_of_encodes (hencodes : request.Encodes settings console) :
    ¬ request.FailsLate settings console before text := by
  obtain ⟨⟨endpoint, hendpoint⟩, hcomponents⟩ := hencodes
  intro hlate
  cases hlate with
  | @torn operation schema action content directory error middle after _ hgenerate _ _ hencode =>
      obtain ⟨string, rfl⟩ :=
        (Generation.content_encodes_iff hgenerate).mpr (.inr ⟨endpoint, hendpoint⟩)
      rw [RawText.encode_ofString] at hencode
      cases hencode
  | unreported hdelivers _ hpath =>
      refine hpath (takes_text fun component hmem => ?_)
      rcases List.mem_append.mp hmem with hmem | hmem
      · exact hcomponents _ hdelivers.directory component hmem
      · obtain rfl := List.mem_singleton.mp hmem
        exact Console.takes_ofString _ _

/-- Every run is atomic, unless it fails late. -/
theorem run_atomic (texts : List RawText) (environment : Environment) (before : FileTree start) :
    Atomic texts environment before (runOn texts environment before).1
      (runOn texts environment before).2 := by
  cases hrequest : Request.ofTexts texts with
  | error refusal =>
      rw [runOn_of_refusal hrequest]
      have hnone : ∀ request, Request.ofTexts texts ≠ .ok request := by simp [hrequest]
      exact {
        keeps := fun _ _ => .refl _
        unchanged := fun _ _ => rfl
        late := fun request _ hother => absurd hother (hnone request)
        prompt := fun request _ hother => absurd hother (hnone request)
        unchanged_of_stdout := fun _ _ _ => rfl
        unchanged_of_refusal := fun _ _ => rfl }
  | ok request =>
      have hfulfilled := runOn_fulfilled hrequest environment before
      refine ⟨?_, ?_, ?_, ?_, ?_, ?_⟩
      · intro hfailed hlate
        exact hfulfilled.keeps hfailed fun text => hlate request text hrequest
      · intro hfailed hstays
        obtain ⟨hbelow, hlength, hlate⟩ := hstays request hrequest
        exact hfulfilled.unchanged hfailed hbelow hlength hlate
      · intro other text hother hlate
        exact late_of_failsLate hother hlate
      · intro other text hother hencodes
        exact not_failsLate_of_encodes hencodes
      · intro other hother hstdout
        obtain rfl : request = other := Except.ok.inj (hrequest.symm.trans hother)
        exact hfulfilled.unchanged_of_stdout hstdout
      · intro refusal hrefusal
        rw [hrequest] at hrefusal
        cases hrefusal

/-- A tree with a schema, an operation, and a handler from before. -/
def oldHandler : FileTree [] where
  top := .directory [
    ("s", .file (Text.Utf8.encode "type Mutation\x7ba:T\x7dtype T\x7bb:B\x7d".toList)),
    ("o", .file (Text.Utf8.encode "\x7bc\x7d".toList)),
    ("generated", .directory [("a.js", .file (Text.Utf8.encode "old".toList))])]
  isDirectoryAt_start := rfl

/-- A failing run empties the handler from before, because its endpoint variable has a byte in it
that is no part of a character. -/
theorem failing_run_empties_handler :
    let ended := runOn ["a", "--sdl", "s", "--derive-operation", "o", "--endpoint-env",
      [.surrogate 0x4FF]] { console := .keeping } oldHandler
    ended.1 = .aborted (.unencodable ⟨0x4FF, 156, 1⟩) "" ∧
      oldHandler.read ⟨.relative, ["generated", "a.js"]⟩ =
        .ok (Text.Utf8.encode "old".toList) ∧
      ended.2.read ⟨.relative, ["generated", "a.js"]⟩ = .ok [] := by
  decide +kernel

end ActionHandler.CommandLine
