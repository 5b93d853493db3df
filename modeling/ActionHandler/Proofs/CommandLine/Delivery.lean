import ActionHandler.Proofs.CommandLine.Stages
import ActionHandler.Proofs.Console
import ActionHandler.Proofs.Files.Handlers
import ActionHandler.Proofs.Generation.RawTexts

/-! # Runs that write a handler

A run that ends well without printing has read its inputs, generated one handler, made its
directory and written the handler into it. Each of these can be checked on its own, so the
same run does the same in every tree in which its inputs, its directory and the place for
its handler are as they were.
-/

namespace ActionHandler.CommandLine

open Files Files.FileTree Graphql Handler
open Text (RawText EncodeError)

variable {start : Location} {request : Request} {settings : Settings} {console : Console}
  {operand : Operand Path} {operation : Option String} {schema text : String} {path : Path}
  {directory : Path} {texts : List RawText} {environment : Environment}
  {tree before middle after : FileTree start} {outcome : Outcome} {log : String}
  {error : EncodeError}

/-- That a run ends by itself and reports success. -/
def Outcome.Succeeded : Outcome → Prop
  | .finished status _ _ => status = 0
  | .aborted .. => False

instance (outcome : Outcome) : Decidable outcome.Succeeded :=
  match outcome with
  | .finished status _ _ => inferInstanceAs (Decidable (status = 0))
  | .aborted .. => .isFalse id

theorem not_succeeded_ofInterruption (log : String) (interruption : Interruption) :
    ¬ (Outcome.ofInterruption log interruption).Succeeded := by
  cases interruption <;> simp [Outcome.ofInterruption, Outcome.Succeeded]

/-- A text is printed as it is, if standard output takes it. -/
theorem ofPrinting_singleton_of_takes {text : RawText} (htext : console.Takes text) :
    Outcome.ofPrinting log (console.print [text]) = .finished 0 text log := by
  rw [Console.print_of_forall_takes (by simpa using htext), List.flatten_singleton]
  rfl

/-- A text that cannot be printed ends the run in a fault behind its log. -/
theorem ofPrinting_singleton_of_error {text : RawText}
    (herror : text.encodeError? console.allows = some error) :
    Outcome.ofPrinting log (console.print [text]) = .aborted (.unencodable error) log := by
  rw [Console.print_singleton_eq_error_iff.mpr herror]
  rfl

/-- The line about a written file is printed if standard output takes the path. -/
theorem ofPrinting_writtenLine_of_takes (hpath : console.Takes path.text) :
    Outcome.ofPrinting log (console.print (writtenLine path)) =
      .finished 0 ("Generated " ++ path.text ++ "\n") log := by
  have hall : ∀ text ∈ writtenLine path, console.Takes text := by
    intro text hmem
    rcases List.mem_cons.mp hmem with rfl | hmem
    · exact Console.takes_append.mpr ⟨Console.takes_ofString _ _, hpath⟩
    · obtain rfl := List.mem_singleton.mp hmem
      exact Console.takes_ofString _ _
  rw [Console.print_of_forall_takes hall]
  simp [Outcome.ofPrinting, writtenLine]

/-- Only the path can keep the line about a written file from being printed. -/
theorem print_writtenLine_eq_error_iff :
    console.print (writtenLine path) = .error error ↔
      RawText.encodeError? console.allows ("Generated " ++ path.text) = some error := by
  have hend : RawText.encodeError? console.allows "\n" = none := Console.takes_ofString _ _
  rw [writtenLine, Console.print_cons_eq_error_iff, Console.print_singleton_eq_error_iff, hend]
  exact or_iff_left fun hrest => nomatch hrest.2

/-- A path that cannot be printed ends the run in a fault behind its log. -/
theorem ofPrinting_writtenLine_of_error
    (herror : RawText.encodeError? console.allows ("Generated " ++ path.text) = some error) :
    Outcome.ofPrinting log (console.print (writtenLine path)) =
      .aborted (.unencodable error) log := by
  rw [print_writtenLine_eq_error_iff.mpr herror]
  rfl

/-- Standard output takes a line about a file exactly when it takes the path. -/
theorem takes_or_error_writtenLine (console : Console) (path : Path) :
    console.Takes path.text ∨ ∃ error,
      RawText.encodeError? console.allows ("Generated " ++ path.text) = some error := by
  cases herror : RawText.encodeError? console.allows ("Generated " ++ path.text) with
  | some error => exact .inr ⟨error, rfl⟩
  | none => exact .inl (Console.takes_append.mp herror).2

/-- The paths of the texts that a request reads. -/
def Request.inputs (request : Request) : List Path :=
  (request.operation.toList ++ [request.schema]).filterMap Operand.value?

/-- A text is read when the option names a file that can be read. -/
theorem loadOperand_eq_ok_iff :
    FileAction.on (loadOperand operand) tree = (.ok text, after) ↔
      ∃ path, operand = .value path ∧ FileAction.on (loadText path) tree = (.ok text, after) := by
  cases operand with
  | blank =>
      have hblank : FileAction.on (loadOperand .blank) tree =
          (.error (.fault .blankInput), tree) := rfl
      simp [hblank]
  | value path =>
      have hvalue : FileAction.on (loadOperand (.value path)) tree =
          FileAction.on (loadText path) tree := rfl
      simp [hvalue]

/-- The texts that a request reads from a tree. -/
structure Loads (request : Request) (tree : FileTree start) (operation : Option String)
    (schema : String) : Prop where
  no_operation : request.operation = none → operation = none
  operation : ∀ operand, request.operation = some operand → ∃ path text,
    operand = .value path ∧ operation = some text ∧
      FileAction.on (loadText path) tree = (.ok text, tree)
  schema : ∃ path, request.schema = .value path ∧
    FileAction.on (loadText path) tree = (.ok schema, tree)

/-- The inputs of a request are read when each of them can be read. -/
theorem loadInputs_eq_ok_iff :
    FileAction.on (loadInputs request) tree = (.ok (operation, schema), after) ↔
      after = tree ∧ Loads request tree operation schema := by
  constructor
  · intro hload
    unfold loadInputs at hload
    dsimp only at hload
    split at hload
    next hnone =>
      simp only [FileAction.on_bind_eq_ok_iff, FileAction.on_pure, loadOperand_eq_ok_iff,
        Prod.mk.injEq, Except.ok.injEq] at hload
      obtain ⟨_, _, ⟨rfl, rfl⟩, _, _, ⟨path, hpath, hschema⟩, ⟨rfl, rfl⟩, rfl⟩ := hload
      obtain rfl := (loadText_eq_ok_iff.mp hschema).1
      exact ⟨rfl, fun _ => rfl, by simp [hnone], path, hpath, hschema⟩
    next operand hsome =>
      simp only [map_eq_pure_bind, FileAction.on_bind_eq_ok_iff, FileAction.on_pure,
        loadOperand_eq_ok_iff, Prod.mk.injEq, Except.ok.injEq] at hload
      obtain ⟨_, _, ⟨text, _, ⟨path, rfl, hoperation⟩, rfl, rfl⟩, _, _,
        ⟨path', hpath', hschema⟩, ⟨rfl, rfl⟩, rfl⟩ := hload
      obtain rfl := (loadText_eq_ok_iff.mp hoperation).1
      obtain rfl := (loadText_eq_ok_iff.mp hschema).1
      refine ⟨rfl, by simp [hsome], ?_, path', hpath', hschema⟩
      intro operand hoperand
      cases hsome.symm.trans hoperand
      exact ⟨path, text, rfl, rfl, hoperation⟩
  · rintro ⟨rfl, hnone, hsome, hschema⟩
    unfold loadInputs
    dsimp only
    split
    next hrequest =>
      rw [hnone hrequest]
      simp only [FileAction.on_bind_eq_ok_iff, FileAction.on_pure, loadOperand_eq_ok_iff]
      exact ⟨none, after, rfl, schema, after, hschema, rfl⟩
    next operand hrequest =>
      obtain ⟨path, text, rfl, rfl, hload⟩ := hsome operand hrequest
      simp only [map_eq_pure_bind, FileAction.on_bind_eq_ok_iff, FileAction.on_pure,
        loadOperand_eq_ok_iff]
      exact ⟨some text, after, ⟨text, after, ⟨path, rfl, hload⟩, rfl⟩, schema, after, hschema, rfl⟩

/-- What has been read of a tree are its inputs. -/
theorem loads_of_loadInputs
    (hload : FileAction.on (loadInputs request) tree = (.ok (operation, schema), after)) :
    Loads request tree operation schema :=
  (loadInputs_eq_ok_iff.mp hload).2

/-- Reading its inputs leaves a tree as it is. -/
theorem Loads.on_loadInputs (hloads : Loads request tree operation schema) :
    FileAction.on (loadInputs request) tree = (.ok (operation, schema), tree) :=
  loadInputs_eq_ok_iff.mpr ⟨rfl, hloads⟩

/-- Inputs are read from every tree that has kept them and its directories. -/
theorem loads_of_kept (hloads : Loads request before operation schema)
    (hkeeps : before.KeepsDirectories after)
    (hinputs : ∀ path ∈ request.inputs, ∀ bytes,
      before.kind? (path.target start) = some (.file bytes) →
        after.kind? (path.target start) = some (.file bytes)) :
    Loads request after operation schema := by
  refine ⟨hloads.no_operation, ?_, ?_⟩
  · intro operand hoperand
    obtain ⟨path, text, rfl, htext, hload⟩ := hloads.operation operand hoperand
    have hmem : path ∈ request.inputs := by
      simp [Request.inputs, hoperand, Operand.value?]
    exact ⟨path, text, rfl, htext, loadText_of_kept hload hkeeps (hinputs path hmem)⟩
  · obtain ⟨path, hpath, hload⟩ := hloads.schema
    have hmem : path ∈ request.inputs := by
      simp [Request.inputs, hpath, Operand.value?]
    exact ⟨path, hpath, loadText_of_kept hload hkeeps (hinputs path hmem)⟩

/-- A run that only prints succeeds when its generation does and what it prints is kept as text. -/
theorem finished_of_keeping (hrequest : Request.ofTexts texts = .ok request)
    (hprints : request.toStdout = true) (hconsole : environment.console = .keeping)
    (hgenerate : ((FileAction.on (loadInputs request) before).1 >>= fun inputs =>
      (request.generation (.ofEnvironment environment) inputs.1 inputs.2).result).toOption.isSome) :
    ∃ stdout stderr, (runOn texts environment before).1 = .finished 0 stdout stderr := by
  have hleaves := loadInputs_leaves request before
  rcases hload : FileAction.on (loadInputs request) before with ⟨_ | ⟨operation, schema⟩, after⟩
  · rw [hload] at hgenerate
    cases hgenerate
  rw [hload] at hleaves hgenerate
  obtain rfl : before = after := hleaves
  cases hresult : (request.generation (.ofEnvironment environment) operation schema).result with
  | error interruption =>
      rw [ok_bind, hresult] at hgenerate
      cases hgenerate
  | ok artifacts =>
      have htakes : ∀ text ∈ artifacts.map (·.content), environment.console.Takes text := by
        rw [hconsole]
        exact fun text _ => Console.takes_keeping text
      rw [runOn_of_fulfilled hrequest (.printed hload hresult hprints),
        Console.print_of_forall_takes htakes]
      exact ⟨_, _, rfl⟩

/-- What a run that writes a handler works on. -/
structure Delivery where
  action : String
  operation : Option String
  schema : String
  content : String
  directory : Path

/-- How a request is fulfilled by writing a handler: the tree in the middle has the directory
already, and not yet the handler. -/
structure Delivers (request : Request) (settings : Settings) (delivery : Delivery)
    (before middle after : FileTree start) : Prop where
  action : request.action = delivery.action
  isName : IsName delivery.action
  loads : Loads request before delivery.operation delivery.schema
  generates : (request.generation settings delivery.operation delivery.schema).result =
    .ok [⟨fileName delivery.action, delivery.content⟩]
  directory : request.directoryOver settings = .value delivery.directory
  saves : Saves delivery.directory delivery.action delivery.content before middle after

/-- The handler that a request generates is named after the action of the request. -/
theorem action_of_generation {action : String} {content : RawText}
    (hgenerate : (request.generation settings operation schema).result =
      .ok [⟨fileName action, content⟩]) : request.action = action ∧ IsName action := by
  obtain ⟨name, _, haction, hname, hartifacts⟩ := Generation.exists_name_of_generate hgenerate
  have hsame : fileName action = fileName name := by
    injection (List.cons.inj hartifacts).1
  obtain rfl : action = name := by simpa [fileName] using hsame
  exact ⟨haction, hname⟩

/-- A handler is written when the option names a directory and it can be saved there. -/
theorem writeUnder_eq_ok_iff {action : String} {content : RawText} {paths : List Path}
    (hname : IsName action) :
    FileAction.on (writeUnder operand [⟨fileName action, content⟩]) before = (.ok paths, after) ↔
      ∃ directory, operand = .value directory ∧ paths = [directory.handlerBelow action] ∧
        ∃ text : String, content = text ∧ ∃ middle,
          Saves directory action text before middle after := by
  cases operand with
  | blank => simp [on_writeUnder_blank]
  | value directory => simp [on_writeUnder_value, writeArtifacts_eq_ok_iff hname]

/-- Artifacts are written when a handler is delivered. -/
theorem exists_delivers_of_written {artifacts : List (Artifact RawText)} {paths : List Path}
    (hload : FileAction.on (loadInputs request) before = (.ok (operation, schema), before))
    (hgenerate : (request.generation settings operation schema).result = .ok artifacts)
    (hwrite : FileAction.on (writeUnder (request.directoryOver settings) artifacts) before =
      (.ok paths, after)) :
    ∃ delivery middle, Delivers request settings delivery before middle after ∧
      delivery.operation = operation ∧ delivery.schema = schema ∧
      paths = [delivery.directory.handlerBelow delivery.action] := by
  have hloads := loads_of_loadInputs hload
  obtain ⟨action, content, haction, hname, rfl⟩ := Generation.exists_name_of_generate hgenerate
  obtain ⟨directory, hdirectory, hpaths, text, rfl, middle, hsaves⟩ :=
    (writeUnder_eq_ok_iff hname).mp hwrite
  exact ⟨⟨action, operation, schema, text, directory⟩, middle,
    ⟨haction, hname, hloads, hgenerate, hdirectory, hsaves⟩, rfl, rfl, hpaths⟩

/-- A run that ends well without printing has written a handler. -/
theorem exists_delivers (hrequest : Request.ofTexts texts = .ok request)
    (hwrites : request.toStdout = false)
    (hsucceeded : (runOn texts environment before).1.Succeeded) :
    ∃ delivery middle, Delivers request (.ofEnvironment environment) delivery before middle
      (runOn texts environment before).2 := by
  have hfulfilled := runOn_fulfilled hrequest environment before
  generalize runOn texts environment before = ended at hfulfilled hsucceeded ⊢
  obtain ⟨outcome, after⟩ := ended
  cases hfulfilled with
  | unread => exact absurd hsucceeded (not_succeeded_ofInterruption _ _)
  | refused => exact absurd hsucceeded (not_succeeded_ofInterruption _ _)
  | unwritten => exact absurd hsucceeded (not_succeeded_ofInterruption _ _)
  | printed _ _ hprints => exact absurd (hprints.symm.trans hwrites) (by decide)
  | written hload hgenerate _ hwrite =>
      obtain ⟨delivery, middle, hdelivers, _⟩ :=
        exists_delivers_of_written hload hgenerate hwrite
      exact ⟨delivery, middle, hdelivers⟩

/-- A run that can write its handler does so, and then comes to print where it is. -/
theorem runOn_of_delivers {delivery : Delivery}
    (hrequest : Request.ofTexts texts = .ok request) (hwrites : request.toStdout = false)
    (hdelivers : Delivers request (.ofEnvironment environment) delivery before middle after) :
    runOn texts environment before =
      (.ofPrinting (request.log (.ofEnvironment environment) delivery.operation delivery.schema)
        (environment.console.print
          (writtenLine (delivery.directory.handlerBelow delivery.action))), after) := by
  have hload := hdelivers.loads.on_loadInputs
  have hwrite : FileAction.on (writeUnder (request.directoryOver (.ofEnvironment environment))
      [⟨fileName delivery.action, delivery.content⟩]) before =
        (.ok [delivery.directory.handlerBelow delivery.action], after) :=
    (writeUnder_eq_ok_iff hdelivers.isName).mpr
      ⟨_, hdelivers.directory, rfl, _, rfl, middle, hdelivers.saves⟩
  have hrun := runOn_of_fulfilled hrequest (.written hload hdelivers.generates hwrites hwrite)
  rw [List.flatMap_singleton] at hrun
  exact hrun

/-- A tree with a schema that declares two actions. -/
def twoActions : FileTree [] where
  top := .directory [("s", .file (Text.Utf8.encode
    "type Mutation\x7ba:T b:T\x7dtype T\x7bc:B\x7d".toList))]
  isDirectoryAt_start := rfl

end ActionHandler.CommandLine
