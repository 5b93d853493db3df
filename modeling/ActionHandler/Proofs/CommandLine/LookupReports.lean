import ActionHandler.Proofs.CommandLine.Delivery
import ActionHandler.Proofs.Generation.Precedence
import ActionHandler.Proofs.Text.Quoted

/-! # Reports of what is missing

A failure to find an action or its output type names both, and its words tell the names apart from
those of any other such failure, however the names look. The words are printable and stand on one
line, and so does the report of a run that ends in such a failure.
-/

namespace ActionHandler

namespace Text

/-- The characters that end a line, for any reader of a report. -/
def lineEnds : List Char :=
  ['\n', '\x0b', '\x0c', '\r', '\x1c', '\x1d', '\x1e', '\u0085', '\u2028', '\u2029']

/-- That a text is printed as it is, on one line. -/
structure IsOneLine (text : String) : Prop where
  printable : ∀ char ∈ text.toList, isPrintable char = true
  unbroken : ∀ char ∈ text.toList, char ∉ lineEnds

namespace IsOneLine

variable {first second text : String}

/-- No character that ends a line is printable. -/
theorem of_all (hall : text.toList.all isPrintable = true) : IsOneLine text where
  printable := List.all_eq_true.mp hall
  unbroken char hchar hend := by
    have hends : lineEnds.all (fun char => !isPrintable char) = true := by decide +kernel
    have hother := List.all_eq_true.mp hends char hend
    rw [List.all_eq_true.mp hall char hchar] at hother
    cases hother

/-- Two texts on one line stand on one line together. -/
theorem append (hfirst : IsOneLine first) (hsecond : IsOneLine second) :
    IsOneLine (first ++ second) := by
  apply of_all
  rw [String.toList_append, List.all_append, Bool.and_eq_true]
  exact ⟨List.all_eq_true.mpr hfirst.printable, List.all_eq_true.mpr hsecond.printable⟩

/-- A quoted text is on one line, whatever is in it. -/
theorem quote (text : RawText) : IsOneLine (Quoted.quote text) := by
  apply of_all
  rw [Quoted.quote, String.toList_ofList, List.all_eq_true]
  exact fun char => Quoted.isPrintable_of_mem_encode

end IsOneLine

end Text

open Text

namespace Failure

variable {action action' type type' : RawText} {reason reason' : String}

theorem message_noAction (action : RawText) : message (.noAction action) =
    "Action " ++ (Quoted.quote action ++ " is not a field of the 'Mutation' type") := by
  rw [← String.append_assoc]
  rfl

theorem message_noOutputType (action type : RawText) (reason : String) :
    message (.noOutputType action type reason) =
      "Output type " ++ (Quoted.quote type ++ (" of action " ++ (Quoted.quote action ++
        (" " ++ (reason ++ " in the actions SDL"))))) := by
  simp only [← String.append_assoc]
  rfl

/-- The words for a missing action tell which action it is. -/
theorem message_noAction_inj :
    message (.noAction action) = message (.noAction action') ↔ action = action' := by
  constructor
  · intro heq
    rw [message_noAction, message_noAction] at heq
    exact (Quoted.quote_append_inj ((String.append_right_inj _).mp heq)).1
  · rintro rfl
    rfl

/-- The names and the reason stand one behind the other, and each of them ends where it ends. -/
theorem message_noOutputType_inj :
    message (.noOutputType action type reason) = message (.noOutputType action' type' reason') ↔
      action = action' ∧ type = type' ∧ reason = reason' := by
  constructor
  · intro heq
    rw [message_noOutputType, message_noOutputType] at heq
    obtain ⟨htype, hbehind⟩ := Quoted.quote_append_inj ((String.append_right_inj _).mp heq)
    obtain ⟨haction, hreason⟩ := Quoted.quote_append_inj ((String.append_right_inj _).mp hbehind)
    exact ⟨haction, htype,
      (String.append_left_inj _).mp ((String.append_right_inj _).mp hreason)⟩
  · rintro ⟨rfl, rfl, rfl⟩
    rfl

/-- A missing action is told on one line. -/
theorem isOneLine_noAction (action : RawText) : IsOneLine (message (.noAction action)) := by
  rw [message_noAction]
  apply IsOneLine.append (.of_all (by decide))
  exact .append (.quote action) (.of_all (by decide))

/-- A missing output type is told on one line, if the reason is. -/
theorem isOneLine_noOutputType (action type : RawText) (hreason : IsOneLine reason) :
    IsOneLine (message (.noOutputType action type reason)) := by
  have hbehind : IsOneLine (" " ++ (reason ++ " in the actions SDL")) :=
    .append (.of_all (by decide)) (.append hreason (.of_all (by decide)))
  rw [message_noOutputType]
  apply IsOneLine.append (.of_all (by decide))
  apply IsOneLine.append (.quote type)
  apply IsOneLine.append (.of_all (by decide))
  exact .append (.quote action) hbehind

theorem isOneLine_reason (hreason : reason ∈ [notDefined, withoutFields]) : IsOneLine reason := by
  have hall : ∀ reason ∈ [notDefined, withoutFields], reason.toList.all isPrintable = true := by
    decide
  exact .of_all (hall reason hreason)

end Failure

namespace CommandLine

open Files

/-- The families of failures to find an action or its output type. -/
def lookupFamilies : List Failure.Family :=
  [.noAction, .noOutputType]

/-- What a generation can miss of an action is told on one line. -/
theorem isOneLine_of_generate {action endpointVariable : RawText} {schema : String}
    {operation : Option String} {failure : Failure} (hfamily : failure.family ∈ lookupFamilies)
    (herror : (generate action schema operation endpointVariable).result =
      .error (.failure failure)) : IsOneLine failure.message := by
  cases htext : action.text? with
  | none =>
      obtain ⟨missing, hmissing, hmissed⟩ :=
        Generation.missed_of_text?_eq_none htext schema operation endpointVariable
      cases hmissing.symm.trans herror
      cases hmissed with
      | unparsable | noMutationType => simp [lookupFamilies, Failure.family] at hfamily
      | noAction => exact Failure.isOneLine_noAction action
  | some name =>
      obtain rfl := RawText.text?_eq_some_iff.mp htext
      obtain haction | hoperation | ⟨names, hnames⟩ := Generation.closed_of_generate herror
      · cases haction with
        | unparsable | noMutationType => simp [lookupFamilies, Failure.family] at hfamily
        | noAction => exact Failure.isOneLine_noAction name
        | outputNotDefined type =>
            exact Failure.isOneLine_noOutputType name type
              (Failure.isOneLine_reason List.mem_cons_self)
        | outputWithoutFields type =>
            exact Failure.isOneLine_noOutputType name type
              (Failure.isOneLine_reason (List.mem_cons_of_mem _ List.mem_cons_self))
      · cases hoperation with
        | unparsable | noRootField | unsupported =>
            simp [lookupFamilies, Failure.family] at hfamily
      · cases hnames
        simp [lookupFamilies, Failure.family] at hfamily

/-- The words for a missing action or output type tell the names that they are about, and are
printed as they are on one line, whatever the names are. A run that misses one of the two prints
nothing else but its log in front of this line. -/
theorem lookup_reports_identify (start : Location) :
    (∀ action action', Failure.message (.noAction action) = Failure.message (.noAction action') ↔
      action = action') ∧
    (∀ action type reason action' type' reason',
      Failure.message (.noOutputType action type reason) =
          Failure.message (.noOutputType action' type' reason') ↔
        action = action' ∧ type = type' ∧ reason = reason') ∧
    (∀ action, IsOneLine (Failure.message (.noAction action))) ∧
    (∀ action type, ∀ reason ∈ [Failure.notDefined, Failure.withoutFields],
      IsOneLine (Failure.message (.noOutputType action type reason))) ∧
    ∀ texts environment (tree : FileTree start) request operation schema failure,
      Request.ofTexts texts = .ok request → Loads request tree operation schema →
      (request.generation (.ofEnvironment environment) operation schema).result =
        .error (.failure failure) →
      failure.family ∈ lookupFamilies →
      ∃ report, IsOneLine report ∧ report = "error: " ++ failure.message ∧
        (runOn texts environment tree).1 =
          .finished 1 "" (request.log (.ofEnvironment environment) operation schema ++
            (report ++ "\n")) := by
  refine ⟨fun _ _ => Failure.message_noAction_inj, ?_, Failure.isOneLine_noAction, ?_, ?_⟩
  · exact fun _ _ _ _ _ _ => Failure.message_noOutputType_inj
  · exact fun action type _ hreason =>
      Failure.isOneLine_noOutputType action type (Failure.isOneLine_reason hreason)
  · intro texts environment tree request operation schema failure hrequest hloads herror hfamily
    have hload := hloads.on_loadInputs
    have hended := runOn_of_fulfilled hrequest (.refused hload herror)
    have hlabel : IsOneLine "error: " := .of_all (by decide)
    refine ⟨_, hlabel.append (isOneLine_of_generate hfamily herror), rfl, ?_⟩
    rw [hended, Outcome.ofInterruption]
    simp only [String.append_assoc]

/-- The name of a missing action has both quotation marks and a line feed in it, and imitates the
words behind it; names of a type may be line ends alone, or surrogates. -/
theorem lookup_report_of_marks :
    (runOn ["\x27 is not\n\x22", "--sdl", "s"] {} twoActions).1 =
        .finished 1 ""
          "error: Action '\\' is not\\n\"' is not a field of the 'Mutation' type\n" ∧
      IsOneLine (Failure.message (.noOutputType "\u2028" [.surrogate 0x4FF]
        Failure.withoutFields)) := by
  obtain ⟨-, -, -, hlines, hreports⟩ := lookup_reports_identify []
  refine ⟨?_, hlines _ _ _ (by decide)⟩
  have hrequest : Request.ofTexts ["\x27 is not\n\x22", "--sdl", "s"] =
      .ok ⟨"\x27 is not\n\x22", .value ⟨.relative, ["s"]⟩, none, none, none, false, 0⟩ :=
    ok_of_toOption (by decide +kernel)
  have hschema : FileAction.on (loadText ⟨.relative, ["s"]⟩) twoActions =
      (.ok "type Mutation\x7ba:T b:T\x7dtype T\x7bc:B\x7d", twoActions) :=
    loadText_eq_ok_iff.mpr ⟨rfl, by decide, _, rfl, ok_of_toOption (by decide +kernel)⟩
  have hloads : Loads ⟨"\x27 is not\n\x22", .value ⟨.relative, ["s"]⟩, none, none, none, false, 0⟩
      twoActions none "type Mutation\x7ba:T b:T\x7dtype T\x7bc:B\x7d" :=
    ⟨fun _ => rfl, nofun, _, rfl, hschema⟩
  obtain ⟨report, _, hreport, hended⟩ := hreports _ {} _ _ _ _
    (.noAction "\x27 is not\n\x22") hrequest hloads (by decide +kernel) (by decide)
  rw [hended, hreport]
  decide +kernel

end CommandLine

end ActionHandler
