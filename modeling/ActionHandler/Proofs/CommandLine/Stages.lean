import ActionHandler.CommandLine.Run
import ActionHandler.Proofs.Files.Actions

/-! # The stages of a run

A run reads its inputs, generates, and prints or writes. It ends with the first of these
stages that fails, and only the last one can change the tree that it works on.
-/

namespace ActionHandler.CommandLine

open Files
open Text (RawText)

variable {start : Location}

/-- How a run ends on a file tree, and the tree that it leaves. -/
def runOn (texts : List RawText) (environment : Environment) (tree : FileTree start) :
    Outcome × FileTree start :=
  StateT.run (run texts environment : StateM (FileTree start) Outcome) tree

theorem loadOperand_leaves (operand : Operand Path) :
    FileAction.Respects (@Eq (FileTree start)) (loadOperand operand) := by
  unfold loadOperand
  refine .bind (fun _ _ _ => Eq.trans) ?_ ?_
  · cases operand <;> exact .of_leaving Eq.refl fun _ => rfl
  · exact fun path => .of_leaving Eq.refl (loadText_leaves path)

/-- Reading the inputs of a run changes nothing. -/
theorem loadInputs_leaves (request : Request) :
    FileAction.Respects (@Eq (FileTree start)) (loadInputs request) := by
  have hschema : ∀ operation : Option String, FileAction.Respects (@Eq (FileTree start))
      (do return (operation, ← loadOperand request.schema) :
        FileAction (StateM (FileTree start)) (Option String × String)) := fun operation =>
    .bind (fun _ _ _ => Eq.trans) (loadOperand_leaves _) fun _ => .of_leaving Eq.refl fun _ => rfl
  unfold loadInputs
  dsimp only
  split
  next =>
    exact .bind (fun _ _ _ => Eq.trans) (.of_leaving Eq.refl fun _ => rfl) hschema
  next operand _ =>
    rw [map_eq_pure_bind]
    refine .bind (fun _ _ _ => Eq.trans)
      (.bind (fun _ _ _ => Eq.trans) (loadOperand_leaves operand) ?_) hschema
    exact fun _ => .of_leaving Eq.refl fun _ => rfl

theorem on_writeUnder_blank (artifacts : List (Artifact RawText)) (tree : FileTree start) :
    FileAction.on (writeUnder .blank artifacts) tree = (.error (.fault .blankDirectory), tree) :=
  rfl

theorem on_writeUnder_value (directory : Path) (name : String) (content : RawText)
    (tree : FileTree start) :
    FileAction.on (writeUnder (.value directory) [⟨name, content⟩]) tree =
      FileAction.on (writeArtifacts directory [⟨some name, some content⟩]) tree :=
  rfl

/-- The generation that a request asks for. -/
def Request.generation (request : Request) (settings : Settings) (operation : Option String)
    (schema : String) : Traced (List (Artifact RawText)) :=
  generate request.action schema operation (request.endpointOver settings)

/-- The log of the generation that a request asks for. -/
def Request.log (request : Request) (settings : Settings) (operation : Option String)
    (schema : String) : String :=
  logText request.verbosity (request.generation settings operation schema).records

/-- How a request is fulfilled, and the tree that is left. -/
inductive Fulfilled (request : Request) (settings : Settings) (console : Console)
    (before : FileTree start) : Outcome → FileTree start → Prop
  | unread {interruption : Interruption}
      (hload : FileAction.on (loadInputs request) before = (.error interruption, before)) :
      Fulfilled request settings console before (.ofInterruption "" interruption) before
  | refused {operation : Option String} {schema : String} {interruption : Interruption}
      (hload : FileAction.on (loadInputs request) before = (.ok (operation, schema), before))
      (hgenerate : (request.generation settings operation schema).result = .error interruption) :
      Fulfilled request settings console before
        (.ofInterruption (request.log settings operation schema) interruption) before
  | printed {operation : Option String} {schema : String} {artifacts : List (Artifact RawText)}
      (hload : FileAction.on (loadInputs request) before = (.ok (operation, schema), before))
      (hgenerate : (request.generation settings operation schema).result = .ok artifacts)
      (hstdout : request.toStdout = true) :
      Fulfilled request settings console before
        (.ofPrinting (request.log settings operation schema)
          (console.print (artifacts.map (·.content)))) before
  | unwritten {operation : Option String} {schema : String}
      {artifacts : List (Artifact RawText)} {interruption : Interruption} {after : FileTree start}
      (hload : FileAction.on (loadInputs request) before = (.ok (operation, schema), before))
      (hgenerate : (request.generation settings operation schema).result = .ok artifacts)
      (hstdout : request.toStdout = false)
      (hwrite : FileAction.on (writeUnder (request.directoryOver settings) artifacts) before =
        (.error interruption, after)) :
      Fulfilled request settings console before
        (.ofInterruption (request.log settings operation schema) interruption) after
  | written {operation : Option String} {schema : String} {artifacts : List (Artifact RawText)}
      {paths : List Path} {after : FileTree start}
      (hload : FileAction.on (loadInputs request) before = (.ok (operation, schema), before))
      (hgenerate : (request.generation settings operation schema).result = .ok artifacts)
      (hstdout : request.toStdout = false)
      (hwrite : FileAction.on (writeUnder (request.directoryOver settings) artifacts) before =
        (.ok paths, after)) :
      Fulfilled request settings console before
        (.ofPrinting (request.log settings operation schema)
          (console.print (paths.flatMap writtenLine))) after

variable {request : Request} {settings : Settings} {console : Console}
  {before after : FileTree start}

theorem deliver_fulfilled {operation : Option String} {schema : String}
    {artifacts : List (Artifact RawText)}
    (hload : FileAction.on (loadInputs request) before = (.ok (operation, schema), before))
    (hgenerate : (request.generation settings operation schema).result = .ok artifacts) :
    Fulfilled request settings console before
      (StateT.run (deliver request settings console (request.log settings operation schema)
        artifacts : StateM (FileTree start) Outcome) before).1
      (StateT.run (deliver request settings console (request.log settings operation schema)
        artifacts : StateM (FileTree start) Outcome) before).2 := by
  unfold deliver
  cases hstdout : request.toStdout with
  | true => exact .printed hload hgenerate hstdout
  | false =>
      rw [if_neg Bool.false_ne_true, FileAction.run_bind]
      cases hwrite : FileAction.on (writeUnder (request.directoryOver settings) artifacts)
          before with
      | mk result after =>
          cases result with
          | error interruption => exact .unwritten hload hgenerate hstdout hwrite
          | ok paths => exact .written hload hgenerate hstdout hwrite

/-- A request is fulfilled in one of the ways that there are. -/
theorem fulfil_fulfilled (request : Request) (settings : Settings) (console : Console)
    (before : FileTree start) :
    Fulfilled request settings console before
      (StateT.run (fulfil request settings console : StateM (FileTree start) Outcome) before).1
      (StateT.run (fulfil request settings console : StateM (FileTree start) Outcome)
        before).2 := by
  have hleaves := loadInputs_leaves request before
  unfold fulfil
  rw [FileAction.run_bind]
  cases hload : FileAction.on (loadInputs request) before with
  | mk result after =>
      rw [hload] at hleaves
      obtain rfl : before = after := hleaves
      cases result with
      | error interruption => exact .unread hload
      | ok inputs =>
          obtain ⟨operation, schema⟩ := inputs
          have hgeneration : generate request.action schema operation
              (request.endpointOver settings) = request.generation settings operation schema := rfl
          dsimp only
          rw [hgeneration]
          cases hgenerate : (request.generation settings operation schema).result with
          | error interruption => exact .refused hload hgenerate
          | ok artifacts => exact deliver_fulfilled hload hgenerate

/-- A request is fulfilled in no other way than it is. -/
theorem Fulfilled.run_fulfil {outcome : Outcome}
    (hfulfilled : Fulfilled request settings console before outcome after) :
    StateT.run (fulfil request settings console : StateM (FileTree start) Outcome) before =
      (outcome, after) := by
  have hgeneration : ∀ operation schema, generate request.action schema operation
      (request.endpointOver settings) = request.generation settings operation schema :=
    fun _ _ => rfl
  rw [fulfil, FileAction.run_bind]
  cases hfulfilled with
  | unread hload =>
      rw [hload]
      rfl
  | refused hload hgenerate =>
      simp only [hload, hgeneration, hgenerate]
      rfl
  | printed hload hgenerate hstdout =>
      simp only [hload, hgeneration, hgenerate, deliver, hstdout, if_true]
      rfl
  | unwritten hload hgenerate hstdout hwrite =>
      simp only [hload, hgeneration, hgenerate, deliver, hstdout, Bool.false_eq_true, if_false,
        FileAction.run_bind, hwrite]
      rfl
  | written hload hgenerate hstdout hwrite =>
      simp only [hload, hgeneration, hgenerate, deliver, hstdout, Bool.false_eq_true, if_false,
        FileAction.run_bind, hwrite]
      rfl

variable {texts : List RawText} {environment : Environment}

theorem runOn_of_refusal {refusal : Refusal} (hrefusal : Request.ofTexts texts = .error refusal)
    (environment : Environment) (before : FileTree start) :
    runOn texts environment before = (.ofRefusal refusal, before) := by
  rw [runOn, run, hrefusal]
  rfl

/-- A run whose command line leads to a request fulfils it. -/
theorem runOn_fulfilled (hrequest : Request.ofTexts texts = .ok request)
    (environment : Environment) (before : FileTree start) :
    Fulfilled request (.ofEnvironment environment) environment.console before
      (runOn texts environment before).1 (runOn texts environment before).2 := by
  rw [runOn, run, hrequest]
  exact fulfil_fulfilled request (.ofEnvironment environment) environment.console before

theorem runOn_of_fulfilled {outcome : Outcome} (hrequest : Request.ofTexts texts = .ok request)
    (hfulfilled : Fulfilled request (.ofEnvironment environment) environment.console before
      outcome after) :
    runOn texts environment before = (outcome, after) := by
  rw [runOn, run, hrequest]
  exact hfulfilled.run_fulfil

end ActionHandler.CommandLine
