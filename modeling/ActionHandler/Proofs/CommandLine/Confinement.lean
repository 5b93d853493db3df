import ActionHandler.Proofs.CommandLine.Delivery
import ActionHandler.Proofs.CommandLine.Options

/-! # Confinement of runs

The text of an action becomes a file name as it is. What keeps a run inside its output
directory is that the action has been found in a schema, so that it is a name: a run that
ends well writes one file directly below that directory, and makes no directory that is not
on the way to it.
-/

namespace ActionHandler.CommandLine

open Files Files.FileTree Graphql Handler
open Text (RawText)

variable {start : Location} {request : Request} {texts : List RawText}
  {environment : Environment} {directory : Path} {before : FileTree start} {stdout : RawText}
  {stderr : String}

/-- The directory that a request writes to has been read from a text. -/
theorem Request.Holds.wellFormed_directory (hholds : request.Holds texts)
    (hdirectory : request.directoryOver (.ofEnvironment environment) = .value directory) :
    directory.WellFormed := by
  rw [Request.directoryOver, hholds.outputDirectory] at hdirectory
  cases hgiven : lastGiven texts .outputDirectory with
  | none =>
      rw [hgiven] at hdirectory
      cases hdirectory
      exact Path.wellFormed_ofText _
  | some operand =>
      rw [hgiven] at hdirectory
      cases operand with
      | blank => cases hdirectory
      | value text =>
          cases hdirectory
          exact Path.wellFormed_ofText _

/-- The path of a handler is one that would be read from its text. -/
theorem wellFormed_handlerBelow {action : String} (haction : IsName action)
    (hdirectory : directory.WellFormed) : (directory.handlerBelow action).WellFormed := by
  intro component hmem
  rcases List.mem_append.mp hmem with hmem | hmem
  · exact hdirectory component hmem
  · obtain rfl := List.mem_singleton.mp hmem
    exact ⟨Path.isComponent_fileName action,
      Path.not_mem_fileName haction (by decide) (by decide)⟩

/-- A run that ends well without printing writes the file of its action, directly below its
output directory, and names it. The action is a name then. -/
theorem run_confined (hrequest : Request.ofTexts texts = .ok request)
    (hwrites : request.toStdout = false)
    (hrun : (runOn texts environment before).1 = .finished 0 stdout stderr) :
    ∃ (action : String) (directory : Path) (operation : Option String) (schema content : String),
      request.action = action ∧ IsName action ∧
      request.directoryOver (.ofEnvironment environment) = .value directory ∧
      Loads request before operation schema ∧
      (request.generation (.ofEnvironment environment) operation schema).result =
        .ok [⟨action ++ ".js", content⟩] ∧
      Confined directory action content before (runOn texts environment before).2 ∧
      stdout = "Generated " ++ (directory.handlerBelow action).text ++ "\n" ∧
      Path.ofText (directory.handlerBelow action).text = directory.handlerBelow action := by
  have hsucceeded : (runOn texts environment before).1.Succeeded := by
    rw [hrun]
    exact rfl
  obtain ⟨delivery, middle, hdelivers⟩ := exists_delivers hrequest hwrites hsucceeded
  have hended := runOn_of_delivers hrequest hwrites hdelivers
  have hwellFormed := (Request.holds_of_ofTexts hrequest).wellFormed_directory hdelivers.directory
  refine ⟨delivery.action, delivery.directory, delivery.operation, delivery.schema,
    delivery.content, hdelivers.action, hdelivers.isName, hdelivers.directory, hdelivers.loads,
    hdelivers.generates, hdelivers.saves.confined, ?_,
    Path.ofText_text (wellFormed_handlerBelow hdelivers.isName hwellFormed)⟩
  rw [hended] at hrun
  rcases takes_or_error_writtenLine environment.console
    (delivery.directory.handlerBelow delivery.action) with htakes | ⟨error, herror⟩
  · rw [ofPrinting_writtenLine_of_takes htakes] at hrun
    cases hrun
    rfl
  · rw [ofPrinting_writtenLine_of_error herror] at hrun
    cases hrun

/-- A tree with a schema in the working directory `w` and an empty directory beside it. -/
def nestedActions : FileTree ["w"] where
  top := .directory [("w", twoActions.top), ("x", .empty)]
  isDirectoryAt_start := rfl

/-- Beside the working directory, on the way to the directory `y`, a directory is passed that the
way leaves again. -/
theorem run_confined_through_parent :
    (runOn ["a", "--sdl", "s", "--output-dir", "../x/../y"] {} nestedActions).1 =
        .finished 0 "Generated ../x/../y/a.js\n" "" ∧
      ∃ content, Confined ⟨.relative, ["..", "x", "..", "y"]⟩ "a" content nestedActions
        (runOn ["a", "--sdl", "s", "--output-dir", "../x/../y"] {} nestedActions).2 := by
  have hrequest : Request.ofTexts ["a", "--sdl", "s", "--output-dir", "../x/../y"] =
      .ok ⟨"a", .value ⟨.relative, ["s"]⟩, none,
        some (.value ⟨.relative, ["..", "x", "..", "y"]⟩), none, false, 0⟩ :=
    ok_of_toOption (by decide +kernel)
  have hrun : (runOn ["a", "--sdl", "s", "--output-dir", "../x/../y"] {} nestedActions).1 =
      .finished 0 "Generated ../x/../y/a.js\n" "" := by decide +kernel
  obtain ⟨action, directory, _, _, content, haction, _, hdirectory, _, _, hconfined, _⟩ :=
    run_confined hrequest rfl hrun
  obtain rfl := RawText.ofString_inj.mp haction
  cases hdirectory
  exact ⟨hrun, content, hconfined⟩

end ActionHandler.CommandLine
