import ActionHandler.Proofs.CommandLine.Stages
import ActionHandler.Proofs.Files.Respelling
import ActionHandler.Proofs.Result

/-! # Runs on trees that read alike

A run sees no more of its files than how they read. On two trees that read alike it prints the
same, ends the same, and makes the same changes: each stage of the run on the one tree is the same
stage on the other.
-/

namespace ActionHandler.CommandLine

open Files Files.FileTree
open Text (RawText)

variable {start : Location} {request : Request} {settings : Settings} {console : Console}
  {operand : Operand Path} {artifacts : List (Artifact RawText)}
  {before before' after first second : FileTree start} {outcome : Outcome}

section

variable (hreads : before.ReadsAs before')
include hreads

theorem agrees_loadOperand (operand : Operand Path) :
    FileAction.Agrees (SameChanges before before') (loadOperand operand) := by
  cases operand with
  | blank => exact .of_result fun _ => rfl
  | value path => exact agrees_loadText hreads path

theorem agrees_loadInputs (request : Request) :
    FileAction.Agrees (SameChanges before before') (loadInputs request) := by
  have hschema : ∀ operation : Option String, FileAction.Agrees (SameChanges before before')
      (do return (operation, ← loadOperand request.schema) :
        FileAction (StateM (FileTree start)) (Option String × String)) := fun operation =>
    .bind (agrees_loadOperand hreads _) fun _ => .of_result fun _ => rfl
  unfold loadInputs
  dsimp only
  split
  next => exact .bind (.of_result fun _ => rfl) hschema
  next operand _ =>
    rw [map_eq_pure_bind]
    refine .bind (.bind (agrees_loadOperand hreads operand) ?_) hschema
    exact fun _ => .of_result fun _ => rfl

theorem agrees_writeUnder (operand : Operand Path) (artifacts : List (Artifact RawText)) :
    FileAction.Agrees (SameChanges before before') (writeUnder operand artifacts) := by
  cases operand with
  | blank => exact .of_result fun _ => rfl
  | value directory => exact agrees_writeArtifacts hreads directory _

theorem loadInputs_of_readsAs {result : Except Interruption (Option String × String)}
    (hload : FileAction.on (loadInputs request) before = (result, before)) :
    FileAction.on (loadInputs request) before' = (result, before') := by
  obtain ⟨hresult, -⟩ := agrees_loadInputs hreads request _ _ (.refl before before')
  have hleaves : before' = (FileAction.on (loadInputs request) before').2 :=
    loadInputs_leaves request before'
  rw [hload] at hresult
  exact Prod.ext hresult.symm hleaves.symm

theorem writeUnder_of_readsAs {result : Except Interruption (List Path)}
    (hwrite : FileAction.on (writeUnder operand artifacts) before = (result, after)) :
    ∃ after', FileAction.on (writeUnder operand artifacts) before' = (result, after') ∧
      SameChanges before before' after after' := by
  obtain ⟨hresult, hchanges⟩ :=
    agrees_writeUnder hreads operand artifacts _ _ (.refl before before')
  rw [hwrite] at hresult hchanges
  generalize FileAction.on (writeUnder operand artifacts) before' = ended at hresult hchanges ⊢
  obtain ⟨result', after'⟩ := ended
  obtain rfl : result = result' := hresult
  exact ⟨after', rfl, hchanges⟩

/-- A request that is fulfilled on a tree is fulfilled in the same way on a tree that reads
alike. -/
theorem Fulfilled.of_readsAs
    (hfulfilled : Fulfilled request settings console before outcome after) :
    ∃ after', Fulfilled request settings console before' outcome after' ∧
      SameChanges before before' after after' := by
  cases hfulfilled with
  | unread hload =>
      exact ⟨before', .unread (loadInputs_of_readsAs hreads hload), .refl before before'⟩
  | refused hload hgenerate =>
      exact ⟨before', .refused (loadInputs_of_readsAs hreads hload) hgenerate,
        .refl before before'⟩
  | printed hload hgenerate hstdout =>
      exact ⟨before', .printed (loadInputs_of_readsAs hreads hload) hgenerate hstdout,
        .refl before before'⟩
  | unwritten hload hgenerate hstdout hwrite =>
      obtain ⟨after', hwrite', hchanges⟩ := writeUnder_of_readsAs hreads hwrite
      exact ⟨after', .unwritten (loadInputs_of_readsAs hreads hload) hgenerate hstdout hwrite',
        hchanges⟩
  | written hload hgenerate hstdout hwrite =>
      obtain ⟨after', hwrite', hchanges⟩ := writeUnder_of_readsAs hreads hwrite
      exact ⟨after', .written (loadInputs_of_readsAs hreads hload) hgenerate hstdout hwrite',
        hchanges⟩

end

/-- Runs on trees that read alike end the same way and make the same changes. -/
theorem run_of_readsAs (hreads : first.ReadsAs second) (texts : List RawText)
    (environment : Environment) :
    (runOn texts environment first).1 = (runOn texts environment second).1 ∧
      SameChanges first second (runOn texts environment first).2
        (runOn texts environment second).2 := by
  cases hrequest : Request.ofTexts texts with
  | error refusal =>
      rw [runOn_of_refusal hrequest, runOn_of_refusal hrequest]
      exact ⟨rfl, .refl first second⟩
  | ok request =>
      obtain ⟨after', hfulfilled', hchanges⟩ :=
        (runOn_fulfilled hrequest environment first).of_readsAs hreads
      rw [runOn_of_fulfilled hrequest hfulfilled']
      exact ⟨rfl, hchanges⟩

/-- How the lines of texts end makes no difference to a run, because reading a file replaces each
line ending by a line feed and keeps everything else. -/
theorem line_endings_ignored (start : Location) :
    (∀ texts environment (first second : FileTree start), SameLines first second →
      (runOn texts environment first).1 = (runOn texts environment second).1 ∧
        SameChanges first second (runOn texts environment first).2
          (runOn texts environment second).2) ∧
    (∀ (path : Path) (tree : FileTree start) (text : List Char), path.fault? = none →
      tree.read path = .ok (Text.Utf8.encode text) →
      FileAction.on (loadText path) tree =
        (.ok (String.ofList (Text.unifyLineEndings text)), tree)) ∧
    ∀ text : List Char,
      Text.unifyLineEndings text =
          Text.replaceAll ['\r'] ['\n'] (Text.replaceAll ['\r', '\n'] ['\n'] text) ∧
        (Text.unifyLineEndings text).filter (!Text.isLineEnd ·) =
          text.filter (!Text.isLineEnd ·) ∧
        Text.unifyLineEndings (Text.unifyLineEndings text) = Text.unifyLineEndings text := by
  refine ⟨?_, ?_, ?_⟩
  · intro texts environment first second hlines
    exact run_of_readsAs hlines.readsAs texts environment
  · intro path tree text hclear hread
    exact loadText_of_encode hclear hread
  · intro text
    exact ⟨Text.unifyLineEndings_eq_replaceAll text, Text.filter_unifyLineEndings text,
      Text.unifyLineEndings_unifyLineEndings text⟩

/-- A tree with one schema, whose lines end in a given way. -/
def schemaLines (ending : Text.LineEnding) : FileTree [] where
  top := .directory [("s", .file (Text.Utf8.encode
    (ending.spell "type Mutation\x7ba:T\x7d\ntype T\x7bb:B\x7d\n".toList)))]
  isDirectoryAt_start := rfl

theorem sameLines_schemaLines (ending ending' : Text.LineEnding) :
    SameLines (schemaLines ending) (schemaLines ending') := by
  intro location
  cases location with
  | nil => exact .inl rfl
  | cons name rest =>
      unfold schemaLines kind?
      dsimp only
      rw [Entry.kind?_directory_cons, Entry.kind?_directory_cons, List.lookup_cons,
        List.lookup_cons]
      cases hname : name == "s" with
      | false => exact .inl rfl
      | true =>
          cases rest with
          | nil => exact .inr ⟨_, ending, ending', by decide, rfl, rfl⟩
          | cons => exact .inl rfl

/-- A schema whose lines end in a carriage return and a line feed gives the handler that it gives
with line feeds alone, and it is read as if it had these. -/
theorem line_endings_ignored_in_schema :
    (runOn ["a", "--sdl", "s"] {} (schemaLines .pair)).1 =
        .finished 0 "Generated generated/a.js\n" "" ∧
      FileAction.on (loadText ⟨.relative, ["s"]⟩) (schemaLines .pair) =
        (.ok "type Mutation\x7ba:T\x7d\ntype T\x7bb:B\x7d\n", schemaLines .pair) := by
  obtain ⟨hruns, hloads, -⟩ := line_endings_ignored []
  obtain ⟨hended, -⟩ := hruns ["a", "--sdl", "s"] {} _ _ (sameLines_schemaLines .lineFeed .pair)
  constructor
  · rw [← hended]
    decide +kernel
  · have hread : (schemaLines .pair).read ⟨.relative, ["s"]⟩ = .ok (Text.Utf8.encode
        (Text.LineEnding.pair.spell "type Mutation\x7ba:T\x7d\ntype T\x7bb:B\x7d\n".toList)) :=
      ok_of_toOption (by decide +kernel)
    rw [hloads _ _ _ (by decide +kernel) hread,
      Text.LineEnding.unifyLineEndings_spell _ (by decide)]
    rfl

end ActionHandler.CommandLine
