import ActionHandler.Proofs.CommandLine.Atomicity

/-! # Independence of runs

A run depends on its inputs, on the directories on the way to its output directory, and on
the place for its handler. A run for another action that writes into the same directory
changes none of these, unless it writes over an input. So the two runs can be made in either
order, and a run can be made again.
-/

namespace ActionHandler.CommandLine

open Files Files.FileTree Graphql Handler
open Text (RawText)

variable {start : Location} {request other : Request} {settings settings' : Settings}
  {console : Console} {delivery delivery' : Delivery} {texts texts' : List RawText}
  {environment environment' : Environment} {operand : Operand Path} {schema : String}
  {operation : Option String} {artifacts : List (Artifact RawText)} {interruption : Interruption}
  {tree before middle after middle' after' : FileTree start} {outcome : Outcome}

/-- That a request does not write over an input of another one, if both work from a given
location. -/
def Request.Spares (start : Location) (request : Request) (settings : Settings)
    (other : Request) : Prop :=
  ∀ (directory : Path) (action : String), request.directoryOver settings = .value directory →
    request.action = action →
    ∀ path ∈ other.inputs, path.target start ≠ (directory.handlerBelow action).target start

namespace Delivers

/-- What a request has done it can do in every tree that has kept its directories and inputs
and has no directory in the place for its handler. -/
theorem replay (hdelivers : Delivers request settings delivery before middle after)
    (hkeeps : middle.KeepsDirectories tree)
    (hplace : tree.kind? ((delivery.directory.handlerBelow delivery.action).target start) ≠
      some .directory)
    (hinputs : ∀ path ∈ request.inputs, ∀ bytes,
      middle.kind? (path.target start) = some (.file bytes) →
        tree.kind? (path.target start) = some (.file bytes)) :
    ∃ last, Delivers request settings delivery tree tree last := by
  have hsaves := hdelivers.saves
  have hloads : Loads request tree delivery.operation delivery.schema := by
    refine loads_of_kept hdelivers.loads (hsaves.grows.keepsDirectories.trans hkeeps) ?_
    intro path hmem bytes hbytes
    exact hinputs path hmem bytes (hsaves.grows.kind?_eq_file_iff.mpr hbytes)
  have haccepts : Accepts (delivery.directory.handlerBelow delivery.action) tree :=
    ⟨hsaves.accepts.clear, hkeeps.locate hsaves.accepts.located, hplace⟩
  exact ⟨_, hdelivers.action, hdelivers.isName, hloads, hdelivers.generates, hdelivers.directory,
    makeDirectories_of_opens (hsaves.opens.mono hkeeps),
    writeText_eq_ok_iff.mpr ⟨_, rfl, haccepts, rfl⟩⟩

/-- A request can be fulfilled behind another one that has written into the same directory. -/
theorem replay_behind (hdelivers : Delivers request settings delivery before middle after)
    (hother : Delivers other settings' delivery' before middle after')
    (hplaces : (delivery.directory.handlerBelow delivery.action).target start ≠
      (delivery'.directory.handlerBelow delivery'.action).target start)
    (hspares : other.Spares start settings' request) :
    ∃ last, Delivers request settings delivery after' after' last := by
  have hputs := hother.saves.puts
  refine hdelivers.replay hother.saves.keepsDirectories ?_ ?_
  · rw [hputs.of_ne hplaces]
    exact hdelivers.saves.accepts.place
  · intro path hmem bytes hbytes
    rw [hputs.of_ne (hspares _ _ hother.directory hother.action path hmem), hbytes]

/-- A request that has been fulfilled can be fulfilled again. -/
theorem replay_again (hdelivers : Delivers request settings delivery before middle after)
    (hspares : request.Spares start settings request) :
    ∃ last, Delivers request settings delivery after after last := by
  have hputs := hdelivers.saves.puts
  refine hdelivers.replay hdelivers.saves.keepsDirectories ?_ ?_
  · simp [hputs.self]
  · intro path hmem bytes hbytes
    rw [hputs.of_ne (hspares _ _ hdelivers.directory hdelivers.action path hmem), hbytes]

/-- Requests with the same directory make the same directories. -/
theorem middle_eq (hdelivers : Delivers request settings delivery before middle after)
    (hother : Delivers other settings' delivery' before middle' after')
    (hdirectory : delivery.directory = delivery'.directory) : middle = middle' := by
  have hmakes := hother.saves.makes
  rw [← hdirectory, hdelivers.saves.makes] at hmakes
  exact (Prod.mk.inj hmakes).2

end Delivers

/-- Handlers of different actions are in different places. -/
theorem handlerBelow_target_ne {directory : Path} {action other : String}
    (haction : action ≠ other) :
    (directory.handlerBelow action).target start ≠ (directory.handlerBelow other).target start := by
  rw [Path.target_handlerBelow, Path.target_handlerBelow]
  intro htarget
  have hname : fileName action = fileName other := by
    simpa [FileName.ofText_inj] using htarget
  exact haction (by simpa [fileName] using hname)

/-- That two runs can be made in either order: each ends as it does alone, and the tree is
the same, with the files that each run writes alone. -/
structure Commute (first second : FileTree start → Outcome × FileTree start) (path path' : Path)
    (before : FileTree start) : Prop where
  second_ends : (second (first before).2).1 = (second before).1
  first_ends : (first (second before).2).1 = (first before).1
  alike : Alike (second (first before).2).2 (first (second before).2).2
  first_file : ∃ bytes, (first before).2.read path = .ok bytes ∧
    (second (first before).2).2.read path = .ok bytes
  second_file : ∃ bytes, (second before).2.read path' = .ok bytes ∧
    (second (first before).2).2.read path' = .ok bytes

/-- Two runs that succeed alone and spare the inputs of each other can be made in either order. -/
theorem runs_commute (hrequest : Request.ofTexts texts = .ok request)
    (hother : Request.ofTexts texts' = .ok other) (hwrites : request.toStdout = false)
    (hwrites' : other.toStdout = false) (haction : request.action ≠ other.action)
    {directory : Path}
    (hdirectory : request.directoryOver (.ofEnvironment environment) = .value directory)
    (hdirectory' : other.directoryOver (.ofEnvironment environment') = .value directory)
    (hsucceeded : (runOn texts environment before).1.Succeeded)
    (hsucceeded' : (runOn texts' environment' before).1.Succeeded)
    (hspares : request.Spares start (.ofEnvironment environment) other)
    (hspares' : other.Spares start (.ofEnvironment environment') request) :
    ∃ action action' : String, request.action = action ∧ other.action = action' ∧
      Commute (runOn texts environment) (runOn texts' environment')
        (directory.handlerBelow action) (directory.handlerBelow action') before := by
  obtain ⟨delivery, middle, hfirst⟩ := exists_delivers hrequest hwrites hsucceeded
  obtain ⟨delivery', middle', hsecond⟩ := exists_delivers hother hwrites' hsucceeded'
  obtain rfl : directory = delivery.directory :=
    Operand.value.inj (hdirectory.symm.trans hfirst.directory)
  have hsame : delivery.directory = delivery'.directory :=
    Operand.value.inj (hdirectory'.symm.trans hsecond.directory)
  -- Both runs make the same directories, and then write to different places.
  obtain rfl := hfirst.middle_eq hsecond hsame
  have hplaces : (delivery.directory.handlerBelow delivery.action).target start ≠
      (delivery'.directory.handlerBelow delivery'.action).target start := by
    rw [← hsame]
    refine handlerBelow_target_ne fun hnames => haction ?_
    rw [hfirst.action, hsecond.action, hnames]
  obtain ⟨last, hbehind⟩ := hsecond.replay_behind hfirst hplaces.symm hspares
  obtain ⟨last', hbehind'⟩ := hfirst.replay_behind hsecond hplaces hspares'
  have hrun := runOn_of_delivers hrequest hwrites hfirst
  have hrun' := runOn_of_delivers hother hwrites' hsecond
  have hlast := runOn_of_delivers hother hwrites' hbehind
  have hlast' := runOn_of_delivers hrequest hwrites hbehind'
  refine ⟨delivery.action, delivery'.action, hfirst.action, hsecond.action, ?_, ?_, ?_,
    ⟨_, hfirst.saves.read, ?_⟩, ?_⟩
  · rw [hlast, hrun']
  · rw [hlast', hrun]
  · rw [hlast, hlast']
    exact hfirst.saves.puts.comm hplaces hbehind.saves.puts hsecond.saves.puts
      hbehind'.saves.puts
  · rw [hlast, read_eq_ok_iff, hbehind.saves.puts.of_ne hplaces]
    exact ⟨hbehind.saves.keepsDirectories.locate hfirst.saves.located, hfirst.saves.puts.self⟩
  · rw [hlast, hsame]
    exact ⟨_, hsecond.saves.read, hbehind.saves.read⟩

/-- What could not be written cannot be written again, and changes nothing more. -/
theorem writeUnder_again
    (hgenerate : (request.generation settings operation schema).result = .ok artifacts)
    (herror : FileAction.on (writeUnder operand artifacts) before =
      (.error interruption, after)) :
    ∃ other, FileAction.on (writeUnder operand artifacts) after = (.error other, after) := by
  obtain ⟨_, content, _, _, rfl⟩ := Generation.exists_name_of_generate hgenerate
  cases operand with
  | blank => exact ⟨_, on_writeUnder_blank _ _⟩
  | value directory =>
      rw [on_writeUnder_value] at herror ⊢
      exact writeArtifacts_again herror

/-- A request that could not be fulfilled for want of a place or because of its text still finds
its inputs. -/
theorem loads_of_unwritten (hloads : Loads request before operation schema)
    (hgenerate : (request.generation settings operation schema).result = .ok artifacts)
    (hwrite : FileAction.on (writeUnder (request.directoryOver settings) artifacts) before =
      (.error interruption, after))
    (hspares : request.Spares start settings request) : Loads request after operation schema := by
  rcases string_or_torn hgenerate hwrite with ⟨action, text, _, hstring⟩ |
    ⟨action, _, directory, _, middle, haction, _, hdirectory, _, _, hsaves⟩
  · have hkeeps := writeUnder_string_keeps hstring
    refine loads_of_kept hloads hkeeps.keepsDirectories fun path _ bytes hbytes => ?_
    rw [kind?_eq_file_iff] at hbytes ⊢
    exact (hkeeps.files _ bytes).mp hbytes
  · refine loads_of_kept hloads
      (hsaves.grows.keepsDirectories.trans hsaves.keepsDirectories) fun path hmem bytes hbytes => ?_
    rw [hsaves.puts.of_ne (hspares directory action hdirectory haction path hmem),
      hsaves.grows.kind?_eq_file_iff]
    exact hbytes

/-- A run that does not write over its own inputs leaves the same tree when it is made again. -/
theorem run_again (hrequest : Request.ofTexts texts = .ok request)
    (hspares : request.Spares start (.ofEnvironment environment) request) :
    Alike (runOn texts environment (runOn texts environment before).2).2
      (runOn texts environment before).2 := by
  have hfulfilled := runOn_fulfilled hrequest environment before
  -- It is enough that the request is fulfilled in some way that leaves the tree as it is.
  have hunchanged : ∀ outcome, Fulfilled request (.ofEnvironment environment) environment.console
      (runOn texts environment before).2 outcome (runOn texts environment before).2 →
      Alike (runOn texts environment (runOn texts environment before).2).2
        (runOn texts environment before).2 := by
    intro outcome hagain
    rw [runOn_of_fulfilled hrequest hagain]
    exact fun _ => rfl
  generalize runOn texts environment before = ended at *
  obtain ⟨outcome, after⟩ := ended
  dsimp only at hfulfilled hunchanged ⊢
  cases hfulfilled with
  | unread hload => exact hunchanged _ (.unread hload)
  | refused hload hgenerate => exact hunchanged _ (.refused hload hgenerate)
  | printed hload hgenerate hstdout => exact hunchanged _ (.printed hload hgenerate hstdout)
  | unwritten hload hgenerate hstdout hwrite =>
      have hloads := loads_of_unwritten (loads_of_loadInputs hload) hgenerate hwrite hspares
      obtain ⟨_, hwrite'⟩ := writeUnder_again hgenerate hwrite
      exact hunchanged _ (.unwritten hloads.on_loadInputs hgenerate hstdout hwrite')
  | written hload hgenerate hstdout hwrite =>
      obtain ⟨delivery, middle, hdelivers, _⟩ :=
        exists_delivers_of_written hload hgenerate hwrite
      obtain ⟨last, hagain⟩ := hdelivers.replay_again hspares
      rw [runOn_of_delivers hrequest hstdout hagain]
      exact hdelivers.saves.puts.again hagain.saves.puts

/-- Two runs for different actions into the same directory, neither of which writes over an
input of the other, can be made in either order, and a run that does not write over its own
inputs can be made twice. -/
theorem runs_independent (before : FileTree start) :
    (∀ texts texts' environment environment' request other directory,
      Request.ofTexts texts = .ok request → Request.ofTexts texts' = .ok other →
      request.toStdout = false → other.toStdout = false → request.action ≠ other.action →
      request.directoryOver (.ofEnvironment environment) = .value directory →
      other.directoryOver (.ofEnvironment environment') = .value directory →
      (runOn texts environment before).1.Succeeded →
      (runOn texts' environment' before).1.Succeeded →
      request.Spares start (.ofEnvironment environment) other →
      other.Spares start (.ofEnvironment environment') request →
      ∃ action action' : String, request.action = action ∧ other.action = action' ∧
        Commute (runOn texts environment) (runOn texts' environment')
          (directory.handlerBelow action) (directory.handlerBelow action') before) ∧
    (∀ texts environment request, Request.ofTexts texts = .ok request →
      request.Spares start (.ofEnvironment environment) request →
      Alike (runOn texts environment (runOn texts environment before).2).2
        (runOn texts environment before).2) := by
  constructor
  · intro texts texts' environment environment' request other directory hrequest hother hwrites
      hwrites' haction hdirectory hdirectory' hsucceeded hsucceeded' hspares hspares'
    exact runs_commute hrequest hother hwrites hwrites' haction hdirectory hdirectory' hsucceeded
      hsucceeded' hspares hspares'
  · intro texts environment request hrequest hspares
    exact run_again hrequest hspares

/-- Runs for the two actions of one schema can be made in either order, and each of them twice. -/
theorem runs_independent_two_actions :
    Commute (runOn ["a", "--sdl", "s"] {}) (runOn ["b", "--sdl", "s"] {})
        ⟨.relative, ["generated", "a.js"]⟩ ⟨.relative, ["generated", "b.js"]⟩ twoActions ∧
      Alike (runOn ["a", "--sdl", "s"] {} (runOn ["a", "--sdl", "s"] {} twoActions).2).2
        (runOn ["a", "--sdl", "s"] {} twoActions).2 := by
  have hrequest : Request.ofTexts ["a", "--sdl", "s"] =
      .ok ⟨"a", .value ⟨.relative, ["s"]⟩, none, none, none, false, 0⟩ :=
    ok_of_toOption (by decide +kernel)
  have hother : Request.ofTexts ["b", "--sdl", "s"] =
      .ok ⟨"b", .value ⟨.relative, ["s"]⟩, none, none, none, false, 0⟩ :=
    ok_of_toOption (by decide +kernel)
  have hspares : ∀ action action' : RawText, Request.Spares []
      ⟨action, .value ⟨.relative, ["s"]⟩, none, none, none, false, 0⟩ (.ofEnvironment {})
      ⟨action', .value ⟨.relative, ["s"]⟩, none, none, none, false, 0⟩ := by
    intro action action' directory name hdirectory _ path hmem
    cases hdirectory
    have hpath : path = ⟨.relative, ["s"]⟩ := by
      simpa [Request.inputs, Operand.value?] using hmem
    have hdefault : (Settings.ofEnvironment {}).outputDirectory =
        ⟨.relative, ["generated"]⟩ := by decide +kernel
    rw [Path.target_handlerBelow, hdefault, hpath, Path.target_of_not_mem (by decide),
      Path.target_of_not_mem (by decide)]
    intro htarget
    have hlength := congrArg List.length htarget
    simp [Root.origin] at hlength
  have hdirectory : (Operand.value (Settings.ofEnvironment {}).outputDirectory) =
      .value ⟨.relative, ["generated"]⟩ := by decide +kernel
  obtain ⟨hcommute, hagain⟩ := runs_independent twoActions
  refine ⟨?_, hagain _ _ _ hrequest (hspares "a" "a")⟩
  obtain ⟨action, action', haction, haction', hcommuted⟩ := hcommute _ _ _ _ _ _ _ hrequest hother
    rfl rfl (by decide) hdirectory hdirectory (by decide +kernel) (by decide +kernel)
    (hspares "a" "b") (hspares "b" "a")
  obtain rfl := RawText.ofString_inj.mp haction
  obtain rfl := RawText.ofString_inj.mp haction'
  exact hcommuted

end ActionHandler.CommandLine
