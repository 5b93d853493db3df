import ActionHandler.Proofs.CommandLine.Delivery
import ActionHandler.Proofs.Generation.Binding

/-! # Runs that end in a fault

A run reports failures and errors of the file system, and returns one. It answers for nothing
else. So a file that does not hold text, an action among the fields of an input type, and a path
that is blank, has a NUL in it or cannot be the name of a file end the run without a report, and
so does a surrogate in what is written into a file or printed. Nothing else does.
-/

namespace ActionHandler

open Graphql
open Text (RawText EncodeError)

namespace Generation

variable {action schema endpointVariable : String} {operation : Option String} {fault : Fault}
  {document : Document}

/-- That the first field that an action can be is one of an input type. -/
def FindsInput (schema action : String) : Prop :=
  ∃ document definition, Document.ofText schema = .ok document ∧
    findActionMember? document action = some (.input definition)

theorem readDocument_eq_ok_iff {label : String} :
    readDocument label schema = .ok document ↔ Document.ofText schema = .ok document := by
  refine ⟨readDocument_eq_ok, ?_⟩
  intro hdocument
  rw [readDocument, hdocument]

/-- Looking for an action ends in a fault when it comes to a field of an input type. -/
theorem findAction_eq_fault_iff :
    findAction action schema = .error (.fault fault) ↔
      fault = .argumentsOfInputField ∧ FindsInput schema action := by
  rw [findAction, bind_eq_error_iff]
  constructor
  · rintro (hread | ⟨document, hread, hdocument⟩)
    · obtain ⟨detail, hdetail⟩ := unparsable_of_readDocument hread
      cases hdetail
    · cases Action.finding_of_result hdocument with
      | @inputField _ member hmember hkind =>
          have harguments := hmember.arguments?_eq_none_iff.mpr hkind
          cases member with
          | field => cases harguments
          | input definition =>
              exact ⟨rfl, document, definition, readDocument_eq_ok hread,
                Action.findActionMember?_eq_some_iff.mpr ⟨_, hmember⟩⟩
  · rintro ⟨rfl, document, definition, hdocument, hfound⟩
    obtain ⟨declaration, hmember⟩ := Action.findActionMember?_eq_some_iff.mp hfound
    refine .inr ⟨document, readDocument_eq_ok_iff.mpr hdocument, ?_⟩
    exact Action.result_eq_of_finding
      (.inputField hmember (hmember.arguments?_eq_none_iff.mp rfl))

/-- A generation ends in a fault when it takes a field of an input type for the action. -/
theorem generate_eq_fault_iff {action endpointVariable : RawText} :
    (generate action schema operation endpointVariable).result = .error (.fault fault) ↔
      fault = .argumentsOfInputField ∧ ∃ name : String, action = name ∧ FindsInput schema name := by
  cases htext : action.text? with
  | none =>
      obtain ⟨failure, hfailure, _⟩ :=
        missed_of_text?_eq_none htext schema operation endpointVariable
      rw [hfailure]
      refine ⟨nofun, ?_⟩
      rintro ⟨_, name, rfl, _⟩
      cases htext.symm.trans (RawText.text?_eq_some_iff.mpr rfl)
  | some name =>
      obtain rfl := RawText.text?_eq_some_iff.mp htext
      have hname : (∃ other : String, (name : RawText) = other ∧ FindsInput schema other) ↔
          FindsInput schema name := by
        simp only [RawText.ofString_inj]
        exact ⟨fun ⟨_, hother, hfinds⟩ => hother ▸ hfinds, fun hfinds => ⟨name, rfl, hfinds⟩⟩
      rw [hname, ← findAction_eq_fault_iff, result_generate, bind_eq_error_iff]
      constructor
      · rintro (haction | ⟨facts, _, hrest⟩)
        · exact haction
        · split at hrest
          next => cases hrest
          next source _ =>
            rcases bind_eq_error_iff.mp hrest with hoperation | ⟨derive, _, hderive⟩
            · cases operationError_of_findOperation hoperation
            · obtain ⟨names, hnames⟩ := relayArtifacts_error hderive
              cases hnames
      · exact .inl

end Generation

namespace CommandLine

open Files Files.FileTree Handler

variable {start : Location} {request : Request} {settings : Settings} {console : Console}
  {operand : Operand Path} {fault : Fault} {operation : Option String} {schema log : String}
  {artifacts : List (Artifact RawText)} {texts : List RawText} {environment : Environment}
  {tree before after : FileTree start} {outcome : Outcome} {interruption : Interruption}
  {error : EncodeError}

/-- The faults of reading the text that an option names. -/
inductive OperandFault (tree : FileTree start) : Operand Path → Fault → Prop
  | blank : OperandFault tree .blank .blankInput
  | faulty {path : Path} {fault : Fault} (hfault : path.fault? = some fault) :
      OperandFault tree (.value path) fault
  | undecodable {path : Path} {bytes : List UInt8} {error : Text.Utf8.DecodeError}
      (hclear : path.fault? = none) (hread : tree.read path = .ok bytes)
      (hdecode : Text.Utf8.decode bytes = .error error) :
      OperandFault tree (.value path) (.undecodable error)

/-- The faults of reading what a request names: the operation is read before the schema. -/
inductive InputFault (request : Request) (tree : FileTree start) (fault : Fault) : Prop
  | operation {operand : Operand Path} (hoperation : request.operation = some operand)
      (hfault : OperandFault tree operand fault)
  | schema
      (hoperation : ∀ operand, request.operation = some operand → ∃ text,
        FileAction.on (loadOperand operand) tree = (.ok text, tree))
      (hfault : OperandFault tree request.schema fault)

/-- The faults of writing the handler of an action under the directory that an option names. -/
inductive WritingFault (action : String) (content : RawText) (tree : FileTree start) :
    Operand Path → Fault → Prop
  | blank : WritingFault action content tree .blank .blankDirectory
  | faulty {directory : Path} {fault : Fault} (hfault : directory.fault? = some fault) :
      WritingFault action content tree (.value directory) fault
  /-- The file of the handler is there, and its content cannot be encoded. -/
  | content {directory : Path} {error : EncodeError} {middle after : FileTree start}
      (hencode : content.encode = .error error)
      (hsaves : Saves directory action "" tree middle after) :
      WritingFault action content tree (.value directory) (.unencodable error)

/-- The faults that the stages of a run come to, and the log in front of each. -/
inductive Faulted (request : Request) (settings : Settings) (console : Console)
    (tree : FileTree start) : Fault → String → Prop
  | input {fault : Fault} (hfault : InputFault request tree fault) :
      Faulted request settings console tree fault ""
  | action {operation : Option String} {schema action : String}
      (hloads : Loads request tree operation schema) (haction : request.action = action)
      (hfinds : Generation.FindsInput schema action) :
      Faulted request settings console tree .argumentsOfInputField
        (request.log settings operation schema)
  | printing {operation : Option String} {schema action : String} {content : RawText}
      {error : EncodeError} (hloads : Loads request tree operation schema)
      (hgenerate : (request.generation settings operation schema).result =
        .ok [⟨fileName action, content⟩])
      (hprints : request.toStdout = true)
      (herror : content.encodeError? console.allows = some error) :
      Faulted request settings console tree (.unencodable error)
        (request.log settings operation schema)
  | writing {operation : Option String} {schema action : String} {content : RawText}
      {fault : Fault} (hloads : Loads request tree operation schema)
      (hgenerate : (request.generation settings operation schema).result =
        .ok [⟨fileName action, content⟩])
      (hwrites : request.toStdout = false)
      (hfault : WritingFault action content tree (request.directoryOver settings) fault) :
      Faulted request settings console tree fault (request.log settings operation schema)
  /-- The handler has been written, and the line about it cannot be printed. -/
  | reporting {delivery : Delivery} {middle after : FileTree start} {error : EncodeError}
      (hdelivers : Delivers request settings delivery tree middle after)
      (hwrites : request.toStdout = false)
      (herror : RawText.encodeError? console.allows
        ("Generated " ++ (delivery.directory.handlerBelow delivery.action).text) = some error) :
      Faulted request settings console tree (.unencodable error)
        (request.log settings delivery.operation delivery.schema)

/-- Bytes are no text when they cannot be decoded. -/
theorem decodeText_eq_fault_iff {bytes : List UInt8} :
    decodeText bytes = .error (.fault fault) ↔
      ∃ error, Text.Utf8.decode bytes = .error error ∧ fault = .undecodable error := by
  unfold decodeText
  cases Text.Utf8.decode bytes with
  | error error => simp [eq_comm]
  | ok text => simp

/-- Reading the text that an option names changes nothing, and ends in one of these faults. -/
theorem loadOperand_eq_fault_iff :
    FileAction.on (loadOperand operand) tree = (.error (.fault fault), after) ↔
      after = tree ∧ OperandFault tree operand fault := by
  cases operand with
  | blank =>
      have hblank : FileAction.on (loadOperand .blank) tree =
          (.error (.fault .blankInput), tree) := rfl
      rw [hblank]
      constructor
      · intro hended
        cases hended
        exact ⟨rfl, .blank⟩
      · rintro ⟨rfl, ⟨⟩⟩
        rfl
  | value path =>
      have hvalue : FileAction.on (loadOperand (.value path)) tree =
          FileAction.on (loadText path) tree := rfl
      rw [hvalue, on_loadText]
      cases hpath : path.fault? with
      | some first =>
          constructor
          · intro hended
            cases hended
            exact ⟨rfl, .faulty hpath⟩
          · rintro ⟨rfl, hfault⟩
            cases hfault with
            | faulty hfault =>
                cases hpath.symm.trans hfault
                rfl
            | undecodable hclear => cases hpath.symm.trans hclear
      | none =>
          constructor
          · intro hended
            dsimp only at hended
            split at hended
            next => cases hended
            next bytes hread =>
              obtain ⟨hdecoded, rfl⟩ := Prod.mk.inj hended
              obtain ⟨error, hdecode, rfl⟩ := decodeText_eq_fault_iff.mp hdecoded
              exact ⟨rfl, .undecodable hpath hread hdecode⟩
          · rintro ⟨rfl, hfault⟩
            cases hfault with
            | faulty hfault => cases hpath.symm.trans hfault
            | undecodable _ hread hdecode =>
                simp only [hread]
                exact Prod.ext (decodeText_eq_fault_iff.mpr ⟨_, hdecode, rfl⟩) rfl

/-- What is made of a text that is read adds no faults. -/
theorem loadOperand_pure_eq_fault_iff {α : Type} {value : String → α} :
    FileAction.on (loadOperand operand >>= fun text => pure (value text)) tree =
        (.error (.fault fault), after) ↔
      after = tree ∧ OperandFault tree operand fault := by
  rw [FileAction.on_bind_eq_error_iff, loadOperand_eq_fault_iff]
  simp

theorem loadOperand_pure_eq_ok_iff {α : Type} {value : String → α} {result : α} :
    FileAction.on (loadOperand operand >>= fun text => pure (value text)) tree =
        (.ok result, after) ↔
      after = tree ∧ ∃ text, FileAction.on (loadOperand operand) tree = (.ok text, tree) ∧
        result = value text := by
  have hleaves := loadOperand_leaves operand tree
  rw [FileAction.on_bind_eq_ok_iff]
  constructor
  · rintro ⟨text, middle, hload, hvalue⟩
    rw [hload] at hleaves
    obtain rfl : tree = middle := hleaves
    cases hvalue
    exact ⟨rfl, text, hload, rfl⟩
  · rintro ⟨rfl, text, hload, rfl⟩
    exact ⟨text, after, hload, rfl⟩

/-- Reading the inputs of a request ends in a fault of one of them. -/
theorem loadInputs_eq_fault_iff :
    FileAction.on (loadInputs request) tree = (.error (.fault fault), after) ↔
      after = tree ∧ InputFault request tree fault := by
  rw [loadInputs]
  cases hoperation : request.operation with
  | none =>
      simp only [pure_bind, loadOperand_pure_eq_fault_iff]
      refine and_congr_right fun _ => ⟨fun hfault => .schema (by simp [hoperation]) hfault, ?_⟩
      rintro (⟨hsome, _⟩ | ⟨_, hfault⟩)
      · cases hoperation.symm.trans hsome
      · exact hfault
  | some operand =>
      dsimp only
      rw [map_eq_pure_bind, FileAction.on_bind_eq_error_iff, loadOperand_pure_eq_fault_iff]
      simp only [loadOperand_pure_eq_fault_iff, loadOperand_pure_eq_ok_iff]
      constructor
      · rintro (⟨rfl, hfault⟩ | ⟨_, _, ⟨rfl, text, hload, _⟩, rfl, hfault⟩)
        · exact ⟨rfl, .operation hoperation hfault⟩
        · refine ⟨rfl, .schema ?_ hfault⟩
          intro other hother
          obtain rfl : operand = other := Option.some.inj (hoperation.symm.trans hother)
          exact ⟨text, hload⟩
      · rintro ⟨rfl, hfault⟩
        cases hfault with
        | operation hother hfault =>
            obtain rfl := Option.some.inj (hoperation.symm.trans hother)
            exact .inl ⟨rfl, hfault⟩
        | schema hloads hfault =>
            obtain ⟨text, hload⟩ := hloads operand hoperation
            exact .inr ⟨some text, after, ⟨rfl, text, hload, rfl⟩, rfl, hfault⟩

/-- Writing the handler of an action ends in a fault of its directory or of its content. -/
theorem writeUnder_eq_fault_iff {action : String} {content : RawText} (hname : IsName action) :
    (FileAction.on (writeUnder operand [⟨fileName action, content⟩]) tree).1 =
        .error (.fault fault) ↔
      WritingFault action content tree operand fault := by
  constructor
  · intro hended
    cases operand with
    | blank =>
        rw [on_writeUnder_blank] at hended
        cases hended
        exact .blank
    | value directory =>
        rw [on_writeUnder_value] at hended
        obtain ⟨after, hended⟩ : ∃ after, FileAction.on (writeArtifacts directory
            [⟨some (fileName action), some content⟩]) tree = (.error (.fault fault), after) :=
          ⟨_, Prod.ext hended rfl⟩
        cases unsaved_of_writeArtifacts_error hname hended with
        | faulty hfault => exact .faulty hfault
        | torn hencode hsaves => exact .content hencode hsaves
  · intro hfault
    cases hfault with
    | blank => rw [on_writeUnder_blank]
    | faulty hfault => rw [on_writeUnder_value, writeArtifacts_of_fault hfault]
    | content hencode hsaves =>
        rw [on_writeUnder_value, on_writeArtifacts_of_saves hname hencode hsaves]

/-- Only a fault ends a run that is interrupted without a report. -/
theorem ofInterruption_eq_aborted_iff {other : String} :
    Outcome.ofInterruption log interruption = .aborted fault other ↔
      interruption = .fault fault ∧ log = other := by
  cases interruption <;> simp [Outcome.ofInterruption]

/-- A run that comes to print ends in a fault when it cannot. -/
theorem ofPrinting_eq_aborted_iff {other : String} {printed : Except EncodeError RawText} :
    Outcome.ofPrinting log printed = .aborted fault other ↔
      (∃ error, printed = .error error ∧ fault = .unencodable error) ∧ log = other := by
  cases printed <;> simp [Outcome.ofPrinting, eq_comm]

/-- A fault in which a run ends is one of its stages. -/
theorem faulted_of_fulfilled
    (hfulfilled : Fulfilled request settings console before outcome after)
    (hended : outcome = .aborted fault log) :
    Faulted request settings console before fault log := by
  cases hfulfilled with
  | unread hload =>
      obtain ⟨rfl, rfl⟩ := ofInterruption_eq_aborted_iff.mp hended
      exact .input (loadInputs_eq_fault_iff.mp hload).2
  | refused hload hgenerate =>
      obtain ⟨rfl, rfl⟩ := ofInterruption_eq_aborted_iff.mp hended
      obtain ⟨rfl, action, haction, hfinds⟩ := Generation.generate_eq_fault_iff.mp hgenerate
      exact .action (loads_of_loadInputs hload) haction hfinds
  | printed hload hgenerate hprints =>
      obtain ⟨⟨error, hprint, rfl⟩, rfl⟩ := ofPrinting_eq_aborted_iff.mp hended
      obtain ⟨action, content, _, _, rfl⟩ := Generation.exists_name_of_generate hgenerate
      exact .printing (loads_of_loadInputs hload) hgenerate hprints
        (Console.print_singleton_eq_error_iff.mp hprint)
  | unwritten hload hgenerate hwrites hwrite =>
      obtain ⟨rfl, rfl⟩ := ofInterruption_eq_aborted_iff.mp hended
      obtain ⟨action, content, _, hname, rfl⟩ := Generation.exists_name_of_generate hgenerate
      exact .writing (loads_of_loadInputs hload) hgenerate hwrites
        ((writeUnder_eq_fault_iff hname).mp (congrArg Prod.fst hwrite))
  | written hload hgenerate hwrites hwrite =>
      obtain ⟨⟨error, hprint, rfl⟩, rfl⟩ := ofPrinting_eq_aborted_iff.mp hended
      obtain ⟨delivery, middle, hdelivers, rfl, rfl, rfl⟩ :=
        exists_delivers_of_written hload hgenerate hwrite
      rw [List.flatMap_singleton] at hprint
      exact .reporting hdelivers hwrites (print_writtenLine_eq_error_iff.mp hprint)

/-- A run that fulfils a request ends in the faults of its stages and in no others. -/
theorem aborted_iff (hrequest : Request.ofTexts texts = .ok request) :
    (runOn texts environment before).1 = .aborted fault log ↔
      Faulted request (.ofEnvironment environment) environment.console before fault log := by
  constructor
  · exact faulted_of_fulfilled (runOn_fulfilled hrequest environment before)
  · intro hfaulted
    cases hfaulted with
    | input hfault =>
        rw [runOn_of_fulfilled hrequest (.unread (loadInputs_eq_fault_iff.mpr ⟨rfl, hfault⟩))]
        rfl
    | action hloads haction hfinds =>
        rw [runOn_of_fulfilled hrequest (.refused hloads.on_loadInputs
          (Generation.generate_eq_fault_iff.mpr ⟨rfl, _, haction, hfinds⟩))]
        rfl
    | printing hloads hgenerate hprints herror =>
        rw [runOn_of_fulfilled hrequest (.printed hloads.on_loadInputs hgenerate hprints)]
        exact ofPrinting_singleton_of_error herror
    | writing hloads hgenerate hwrites hfault =>
        have hwrite := (writeUnder_eq_fault_iff (action_of_generation hgenerate).2).mpr hfault
        rw [runOn_of_fulfilled hrequest (.unwritten hloads.on_loadInputs hgenerate hwrites
          (Prod.ext hwrite rfl))]
        rfl
    | reporting hdelivers hwrites herror =>
        rw [runOn_of_delivers hrequest hwrites hdelivers]
        exact ofPrinting_writtenLine_of_error herror

/-- The log in front of an interruption and the stage that it comes from. There is no log before
there are texts to work on, and then that of the generation. -/
inductive Interrupted (request : Request) (settings : Settings) (tree : FileTree start) :
    String → Interruption → Prop
  | unread {interruption : Interruption}
      (hload : FileAction.on (loadInputs request) tree = (.error interruption, tree)) :
      Interrupted request settings tree "" interruption
  | refused {operation : Option String} {schema : String} {interruption : Interruption}
      (hloads : Loads request tree operation schema)
      (hgenerate : (request.generation settings operation schema).result = .error interruption) :
      Interrupted request settings tree (request.log settings operation schema) interruption
  | unwritten {operation : Option String} {schema : String}
      {artifacts : List (Artifact RawText)} {interruption : Interruption}
      (hloads : Loads request tree operation schema)
      (hgenerate : (request.generation settings operation schema).result = .ok artifacts)
      (hwrites : request.toStdout = false)
      (hwrite : (FileAction.on (writeUnder (request.directoryOver settings) artifacts) tree).1 =
        .error interruption) :
      Interrupted request settings tree (request.log settings operation schema) interruption

/-- How a run can end: the command line leads to no request, or the run has generated a handler
and is successful, or it prints nothing but one report behind its log, or it ends in the fault of
a stage. -/
inductive Ends (texts : List RawText) (environment : Environment) (tree : FileTree start) :
    Outcome → Prop
  | refused {refusal : Refusal} (hrefusal : Request.ofTexts texts = .error refusal) :
      Ends texts environment tree (.ofRefusal refusal)
  | succeeded {request : Request} {operation : Option String} {schema : String}
      {stdout : RawText} {artifacts : List (Artifact RawText)}
      (hrequest : Request.ofTexts texts = .ok request)
      (hclear : ∀ fault log, ¬ Faulted request (.ofEnvironment environment) environment.console
        tree fault log)
      (hloads : Loads request tree operation schema)
      (hgenerate : (request.generation (.ofEnvironment environment) operation schema).result =
        .ok artifacts) :
      Ends texts environment tree
        (.finished 0 stdout (request.log (.ofEnvironment environment) operation schema))
  | reported {request : Request} {log : String} {interruption : Interruption}
      (hrequest : Request.ofTexts texts = .ok request)
      (hclear : ∀ fault log, ¬ Faulted request (.ofEnvironment environment) environment.console
        tree fault log)
      (hinterrupted : Interrupted request (.ofEnvironment environment) tree log interruption) :
      Ends texts environment tree
        (.finished 1 "" (log ++ "error: " ++ interruption.message ++ "\n"))
  | faulted {request : Request} {fault : Fault} {log : String}
      (hrequest : Request.ofTexts texts = .ok request)
      (hfault : Faulted request (.ofEnvironment environment) environment.console tree fault log) :
      Ends texts environment tree (.aborted fault log)

/-- All that is no fault is reported with status one. -/
theorem ofInterruption_of_ne_fault (hreported : ∀ fault, interruption ≠ .fault fault)
    (log : String) : Outcome.ofInterruption log interruption =
      .finished 1 "" (log ++ "error: " ++ interruption.message ++ "\n") := by
  cases interruption with
  | failure => rfl
  | system => rfl
  | fault fault => exact absurd rfl (hreported fault)

section Clear

variable (hrequest : Request.ofTexts texts = .ok request)
  (hclear : ∀ fault log, ¬ Faulted request (.ofEnvironment environment) environment.console before
    fault log)
include hrequest hclear

/-- Where there is no fault, an interruption is reported, whichever stage it comes from. -/
theorem ends_of_interrupted
    (hinterrupted : Interrupted request (.ofEnvironment environment) before log interruption)
    (hended : (runOn texts environment before).1 = .ofInterruption log interruption) :
    Ends texts environment before (.ofInterruption log interruption) := by
  have hcause : ∀ fault, interruption ≠ .fault fault := by
    rintro fault rfl
    exact hclear fault log ((aborted_iff hrequest).mp hended)
  rw [ofInterruption_of_ne_fault hcause]
  exact .reported hrequest hclear hinterrupted

/-- Where there is no fault, all that a run comes to print is printed. -/
theorem ends_of_printing {printed : Except EncodeError RawText}
    (hloads : Loads request before operation schema)
    (hgenerate : (request.generation (.ofEnvironment environment) operation schema).result =
      .ok artifacts)
    (hended : (runOn texts environment before).1 =
      .ofPrinting (request.log (.ofEnvironment environment) operation schema) printed) :
    Ends texts environment before
      (.ofPrinting (request.log (.ofEnvironment environment) operation schema) printed) := by
  cases printed with
  | error error => exact absurd ((aborted_iff hrequest).mp hended) (hclear _ _)
  | ok stdout => exact .succeeded hrequest hclear hloads hgenerate

end Clear

/-- Every run ends in one of these ways. -/
theorem run_ends (texts : List RawText) (environment : Environment) (before : FileTree start) :
    Ends texts environment before (runOn texts environment before).1 := by
  cases hrequest : Request.ofTexts texts with
  | error refusal =>
      rw [runOn_of_refusal hrequest]
      exact .refused hrequest
  | ok request =>
      by_cases hfaulted : ∃ fault log, Faulted request (.ofEnvironment environment)
          environment.console before fault log
      · obtain ⟨fault, log, hfault⟩ := hfaulted
        rw [(aborted_iff hrequest).mpr hfault]
        exact .faulted hrequest hfault
      · have hclear : ∀ fault log, ¬ Faulted request (.ofEnvironment environment)
            environment.console before fault log := fun fault log hfault =>
          hfaulted ⟨fault, log, hfault⟩
        have hfulfilled := runOn_fulfilled hrequest environment before
        generalize hran : runOn texts environment before = ended at hfulfilled ⊢
        obtain ⟨outcome, after⟩ := ended
        have hended := congrArg Prod.fst hran
        cases hfulfilled with
        | unread hload => exact ends_of_interrupted hrequest hclear (.unread hload) hended
        | refused hload hgenerate =>
            have hloads := loads_of_loadInputs hload
            exact ends_of_interrupted hrequest hclear (.refused hloads hgenerate) hended
        | printed hload hgenerate =>
            have hloads := loads_of_loadInputs hload
            exact ends_of_printing hrequest hclear hloads hgenerate hended
        | unwritten hload hgenerate hwrites hwrite =>
            have hloads := loads_of_loadInputs hload
            have herror := congrArg Prod.fst hwrite
            exact ends_of_interrupted hrequest hclear
              (.unwritten hloads hgenerate hwrites herror) hended
        | written hload hgenerate =>
            have hloads := loads_of_loadInputs hload
            exact ends_of_printing hrequest hclear hloads hgenerate hended

/-- A schema that is not text ends the run without a report, and so does an input type with the
name of the mutation type. -/
theorem unreported_faults :
    (runOn ["a", "--sdl", "s"] {} (⟨.directory [("s", .file [0xFF])], rfl⟩ : FileTree [])).1 =
        .aborted (.undecodable ⟨0xFF, 0, 1, .invalidStart⟩) "" ∧
      (runOn ["a", "--sdl", "s"] {} (⟨.directory [("s", .file (Text.Utf8.encode
        "input Mutation\x7ba:T\x7dtype T\x7bb:B\x7d".toList))], rfl⟩ : FileTree [])).1 =
          .aborted .argumentsOfInputField "" := by
  decide +kernel

end CommandLine

end ActionHandler
