import ActionHandler.Proofs.CommandLine.Delivery
import ActionHandler.Proofs.CommandLine.Options

/-! # Verbosity of runs

How much a run tells about itself is decided when it is over: its records are the same at every
verbosity, and so are its end and the tree that it leaves. The log shows more of the records at a
higher verbosity, up to two, and stands in front of everything else on the error output.
-/

namespace ActionHandler.CommandLine

open Files
open Text (RawText EncodeError)

variable {start : Location} {request : Request} {settings : Settings} {console : Console}
  {texts : List RawText} {environment : Environment} {draft after : Draft} {words : List Word}
  {before tree : FileTree start} {outcome : Outcome}

theorem logText_nil (verbosity : Nat) : logText verbosity [] = "" := by
  simp [logText, Text.unlines]

theorem isShown_zero (record : Record) : isShown 0 record = false := by
  unfold isShown
  cases record.level <;> rfl

/-- A record is shown wherever it is at a lower verbosity. -/
theorem isShown_mono {low high : Nat} (hverbosity : low ≤ high) (record : Record)
    (hshown : isShown low record = true) : isShown high record = true := by
  unfold isShown at hshown ⊢
  cases hlevel : record.level with
  | info =>
      simp only [hlevel, decide_eq_true_eq] at hshown ⊢
      omega
  | debug =>
      simp only [hlevel, decide_eq_true_eq] at hshown ⊢
      omega

theorem isShown_of_two_le {verbosity : Nat} (hverbosity : 2 ≤ verbosity) (record : Record) :
    isShown verbosity record = true := by
  unfold isShown
  cases record.level with
  | info => exact decide_eq_true (by omega)
  | debug => exact decide_eq_true hverbosity

theorem logText_zero (records : List Record) : logText 0 records = "" := by
  have hnone : records.filter (isShown 0) = [] :=
    List.filter_eq_nil_iff.mpr fun record _ => by simp [isShown_zero]
  rw [logText, hnone]
  rfl

/-- What is shown of the records at a lower verbosity is a part of what is shown at a higher
one, in the same order. -/
theorem filter_isShown_sublist {low high : Nat} (hverbosity : low ≤ high)
    (records : List Record) :
    (records.filter (isShown low)).Sublist (records.filter (isShown high)) :=
  List.monotone_filter_right records (isShown_mono hverbosity)

/-- From a verbosity of two on, all records are shown. -/
theorem logText_of_two_le {verbosity : Nat} (hverbosity : 2 ≤ verbosity)
    (records : List Record) : logText verbosity records = logText 2 records := by
  have hall : ∀ {verbosity}, 2 ≤ verbosity → records.filter (isShown verbosity) = records :=
    fun hverbosity => List.filter_eq_self.mpr fun record _ => isShown_of_two_le hverbosity record
  rw [logText, logText, hall hverbosity, hall (Nat.le_refl 2)]

/-- The options without values that a word gives. -/
def Word.kinds : Word → List Switch
  | .switches kinds => kinds
  | _ => []

theorem Draft.verbosity_of_switchOn {kinds : List Switch}
    (hswitch : draft.switchOn kinds = .ok after) :
    after.verbosity = draft.verbosity + kinds.count .verbose := by
  induction kinds generalizing draft with
  | nil =>
      cases hswitch
      rfl
  | cons kind rest ih =>
      cases kind with
      | help => cases hswitch
      | stdout =>
          rw [ih hswitch, List.count_cons_of_ne (by decide)]
      | verbose =>
          rw [ih hswitch, List.count_cons_self]
          dsimp only
          omega

theorem Draft.verbosity_of_take (htake : draft.take words = .ok after) :
    after.verbosity = draft.verbosity + (words.flatMap Word.kinds).count .verbose := by
  have hvalue : ∀ (draft : Draft) text, (draft.addValue text).verbosity = draft.verbosity := by
    intro draft text
    unfold Draft.addValue
    split <;> rfl
  have hseparator : ∀ draft : Draft, draft.addSeparator.verbosity = draft.verbosity := by
    intro draft
    unfold Draft.addSeparator
    split <;> rfl
  have hset : ∀ (draft : Draft) operand setting,
      (draft.set operand setting).verbosity = draft.verbosity := by
    intro draft operand setting
    cases setting <;> rfl
  fun_induction Draft.take draft words with
  | case1 draft =>
      cases htake
      rfl
  | case2 draft text rest haction ih => simpa [Word.kinds, hvalue] using ih htake
  | case3 draft text rest action haction ih =>
      simpa [Word.kinds, hvalue, hseparator] using ih htake
  | case4 draft text rest hnext ih => simpa [Word.kinds, hvalue] using ih htake
  | case5 draft rest ih => simpa [Word.kinds, hseparator] using ih htake
  | case6 draft setting attached rest ih => simpa [Word.kinds, hset] using ih htake
  | case7 draft setting text rest ih => simpa [Word.kinds, hset] using ih htake
  | case8 => cases htake
  | case9 => cases htake
  | case10 draft kinds rest next hswitch ih =>
      rw [ih htake, Draft.verbosity_of_switchOn hswitch, List.flatMap_cons, List.count_append,
        Nat.add_assoc]
      rfl
  | case11 => cases htake
  | case12 draft text rest ih => exact ih htake

/-- The verbosity is the number of times that it has been asked for. -/
theorem Request.verbosity_eq_count (hrequest : Request.ofTexts texts = .ok request) :
    ∃ words, Word.ofTexts texts = .ok words ∧
      request.verbosity = (words.flatMap Word.kinds).count .verbose := by
  unfold Request.ofTexts at hrequest
  split at hrequest
  next => cases hrequest
  next words hwords =>
    split at hrequest
    next => cases hrequest
    next draft hdraft =>
      refine ⟨words, hwords, ?_⟩
      have hverbosity := Draft.verbosity_of_take hdraft
      unfold Draft.finish at hrequest
      split at hrequest
      next =>
        split at hrequest
        next =>
          cases hrequest
          simpa [Draft.empty] using hverbosity
        next => cases hrequest
      next => cases hrequest

/-- Asking for verbosity first is all that is different about a request. -/
theorem Request.ofTexts_verbose (hrequest : Request.ofTexts texts = .ok request) (count : Nat) :
    Request.ofTexts (List.replicate count ("-v" : RawText) ++ texts) =
      .ok { request with verbosity := count + request.verbosity } := by
  induction count with
  | zero => simpa using hrequest
  | succ count ih =>
      have hswitched := Request.ofTexts_switches (by decide) (show Word.ofText "-v" =
        .ok (.switches [.verbose]) by rfl) (show Draft.empty.switchOn [.verbose] =
          .ok (Draft.empty.switched false 1) by rfl) ih
      have hcount : count + 1 + request.verbosity = 1 + (count + request.verbosity) := by omega
      rw [List.replicate_succ, List.cons_append, hswitched, hcount]
      rfl

/-- The records of a run. There are none before there are texts to work on. -/
def Request.records (request : Request) (settings : Settings) (tree : FileTree start) :
    List Record :=
  match (FileAction.on (loadInputs request) tree).1 with
  | .error _ => []
  | .ok (operation, schema) => (request.generation settings operation schema).records

/-- How a run ends, its log left out. -/
inductive Ending
  | finished (status : Nat) (stdout : RawText) (report : String)
  | aborted (fault : Fault)
  deriving DecidableEq, Repr

namespace Ending

/-- The end of a run that is interrupted. -/
def ofInterruption : Interruption → Ending
  | .fault fault => .aborted fault
  | .failure failure => .finished 1 "" ("error: " ++ failure.message ++ "\n")
  | .system error => .finished 1 "" ("error: " ++ error.message ++ "\n")

/-- The end of a run that comes to print something. -/
def ofPrinting : Except EncodeError RawText → Ending
  | .ok stdout => .finished 0 stdout ""
  | .error error => .aborted (.unencodable error)

/-- The end of a run behind its log. -/
def behind (log : String) : Ending → Outcome
  | .finished status stdout report => .finished status stdout (log ++ report)
  | .aborted fault => .aborted fault log

theorem behind_ofInterruption (log : String) (interruption : Interruption) :
    (ofInterruption interruption).behind log = .ofInterruption log interruption := by
  cases interruption <;> simp [ofInterruption, behind, Outcome.ofInterruption, String.append_assoc]

theorem behind_ofPrinting (log : String) (printed : Except EncodeError RawText) :
    (ofPrinting printed).behind log = .ofPrinting log printed := by
  cases printed <;> simp [ofPrinting, behind, Outcome.ofPrinting]

end Ending

theorem Request.records_of_load {operation : Option String} {schema : String}
    (hload : FileAction.on (loadInputs request) before = (.ok (operation, schema), before)) :
    request.records settings before =
      (request.generation settings operation schema).records := by
  rw [Request.records, hload]

/-- A request is fulfilled in the same way at every verbosity, but for the part of its records
that is shown. -/
theorem Fulfilled.exists_ending
    (hfulfilled : Fulfilled request settings console before outcome tree) :
    ∃ ending : Ending, ∀ verbosity,
      Fulfilled { request with verbosity := verbosity } settings console before
        (ending.behind (logText verbosity (request.records settings before))) tree := by
  cases hfulfilled with
  | @unread interruption hload =>
      have hrecords : request.records settings before = [] := by rw [Request.records, hload]
      refine ⟨.ofInterruption interruption, fun verbosity => ?_⟩
      rw [hrecords, logText_nil, Ending.behind_ofInterruption]
      exact .unread hload
  | @refused _ _ interruption hload hgenerate =>
      refine ⟨.ofInterruption interruption, fun verbosity => ?_⟩
      rw [Request.records_of_load hload, Ending.behind_ofInterruption]
      exact .refused hload hgenerate
  | @printed _ _ artifacts hload hgenerate hstdout =>
      refine ⟨.ofPrinting (console.print (artifacts.map (·.content))), fun verbosity => ?_⟩
      rw [Request.records_of_load hload, Ending.behind_ofPrinting]
      exact .printed hload hgenerate hstdout
  | @unwritten _ _ _ interruption _ hload hgenerate hstdout hwrite =>
      refine ⟨.ofInterruption interruption, fun verbosity => ?_⟩
      rw [Request.records_of_load hload, Ending.behind_ofInterruption]
      exact .unwritten hload hgenerate hstdout hwrite
  | @written _ _ _ paths _ hload hgenerate hstdout hwrite =>
      refine ⟨.ofPrinting (console.print (paths.flatMap writtenLine)), fun verbosity => ?_⟩
      rw [Request.records_of_load hload, Ending.behind_ofPrinting]
      exact .written hload hgenerate hstdout hwrite

/-- Runs whose requests differ in their verbosity alone differ in their logs alone. -/
theorem exists_ending (hrequest : Request.ofTexts texts = .ok request)
    (environment : Environment) (before : FileTree start) :
    ∃ (ending : Ending) (after : FileTree start), ∀ others verbosity,
      Request.ofTexts others = .ok { request with verbosity := verbosity } →
      runOn others environment before =
        (ending.behind (logText verbosity (request.records (.ofEnvironment environment) before)),
          after) := by
  obtain ⟨ending, hending⟩ := (runOn_fulfilled hrequest environment before).exists_ending
  exact ⟨ending, _, fun others verbosity hothers => runOn_of_fulfilled hothers (hending verbosity)⟩

/-- Verbosity can be observed in the log alone. A run with more of it ends the same way, also when
it is a fault that ends it, and leaves the same tree; the log shows nothing of the records at first,
then some of them, and all of them from a verbosity of two on. -/
theorem verbosity_shows_in_log (start : Location) :
    (∀ texts request environment (before : FileTree start), Request.ofTexts texts = .ok request →
      (∃ words, Word.ofTexts texts = .ok words ∧
        request.verbosity = (words.flatMap Word.kinds).count .verbose) ∧
      ∃ (ending : Ending) (after : FileTree start), ∀ count,
        runOn (List.replicate count ("-v" : RawText) ++ texts) environment before =
          (ending.behind (logText (count + request.verbosity)
            (request.records (.ofEnvironment environment) before)), after)) ∧
    ∀ records, logText 0 records = "" ∧
      (records.filter (isShown 1)).Sublist (records.filter (isShown 2)) ∧
      ∀ verbosity, 2 ≤ verbosity → logText verbosity records = logText 2 records := by
  constructor
  · intro texts request environment before hrequest
    refine ⟨Request.verbosity_eq_count hrequest, ?_⟩
    obtain ⟨ending, after, hended⟩ := exists_ending hrequest environment before
    exact ⟨ending, after, fun count => hended _ _ (Request.ofTexts_verbose hrequest count)⟩
  · intro records
    exact ⟨logText_zero records, filter_isShown_sublist (by decide) records,
      fun verbosity hverbosity => logText_of_two_le hverbosity records⟩

/-- A run that asks for verbosity twice writes the handler that it writes without. -/
theorem verbosity_shows_in_log_of_two_actions :
    (∃ log, (runOn ["-v", "-v", "a", "--sdl", "s"] {} twoActions).1 =
        .finished 0 "Generated generated/a.js\n" log) ∧
      (runOn ["-v", "-v", "a", "--sdl", "s"] {} twoActions).2 =
        (runOn ["a", "--sdl", "s"] {} twoActions).2 := by
  have hrequest : Request.ofTexts ["a", "--sdl", "s"] =
      .ok ⟨"a", .value ⟨.relative, ["s"]⟩, none, none, none, false, 0⟩ :=
    ok_of_toOption (by decide +kernel)
  have hended : (runOn ["a", "--sdl", "s"] {} twoActions).1 =
      .finished 0 "Generated generated/a.js\n" "" := by decide +kernel
  obtain ⟨_, ending, after, hruns⟩ := (verbosity_shows_in_log []).1 _ _ {} twoActions hrequest
  have hquiet := hruns 0
  have hloud : runOn ["-v", "-v", "a", "--sdl", "s"] {} twoActions = _ := hruns 2
  rw [List.replicate_zero, List.nil_append] at hquiet
  rw [hquiet] at hended ⊢
  rw [hloud]
  cases ending with
  | finished status stdout report =>
      dsimp only [Ending.behind] at hended ⊢
      obtain ⟨rfl, rfl, -⟩ := Outcome.finished.inj hended
      exact ⟨⟨_, rfl⟩, rfl⟩
  | aborted fault => cases hended

end ActionHandler.CommandLine
