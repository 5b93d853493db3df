import ActionHandler.CommandLine.Request
import ActionHandler.Proofs.Files.Paths
import ActionHandler.Proofs.Result

/-! # Options of a command line

The last value that an option is given counts, and all earlier ones for the same option are
forgotten. Options without values can be told in advance: they only switch something on or
count, and change nothing else of what a command line asks for.
-/

namespace ActionHandler.CommandLine

open Text (RawText)

variable {draft after : Draft} {words : List Word} {texts : List RawText} {request : Request}
  {values : Setting → Option (Operand RawText)}

/-- What words give to options, in order. -/
def Word.given : List Word → List (Setting × Operand RawText)
  | [] => []
  | .setting kind (some attached) :: rest => (kind, .ofText attached) :: given rest
  | .setting kind none :: .value text :: rest => (kind, .ofText text) :: given rest
  | _ :: rest => given rest

/-- What a command line gives to an option: the last time counts. -/
def lastGiven (texts : List RawText) (setting : Setting) : Option (Operand RawText) :=
  match Word.ofTexts texts with
  | .error _ => none
  | .ok words => (Word.given words).reverse.lookup setting

namespace Draft

/-- That a draft holds what the options with values are given. -/
structure Holds (draft : Draft) (values : Setting → Option (Operand RawText)) : Prop where
  schema : draft.schema = (values .schema).map .path
  operation : draft.operation = (values .operation).map .path
  outputDirectory : draft.outputDirectory = (values .outputDirectory).map .path
  endpointVariable : draft.endpointVariable = (values .endpointVariable).bind Operand.value?

namespace Holds

/-- A draft that is given a setting holds it, and all others as before. -/
theorem set (hholds : draft.Holds values) (operand : Operand RawText) (setting : Setting) :
    (draft.set operand setting).Holds
      (fun other => if other = setting then some operand else values other) := by
  obtain ⟨hschema, hoperation, hdirectory, hendpoint⟩ := hholds
  cases setting <;> constructor <;> simp [Draft.set, *]

theorem addSurplus (hholds : draft.Holds values) (word : RawText) :
    (draft.addSurplus word).Holds values :=
  ⟨hholds.schema, hholds.operation, hholds.outputDirectory, hholds.endpointVariable⟩

theorem addValue (hholds : draft.Holds values) (text : RawText) :
    (draft.addValue text).Holds values := by
  unfold Draft.addValue
  split
  · exact ⟨hholds.schema, hholds.operation, hholds.outputDirectory, hholds.endpointVariable⟩
  · exact hholds.addSurplus text

theorem addSeparator (hholds : draft.Holds values) : draft.addSeparator.Holds values := by
  unfold Draft.addSeparator
  split
  · exact hholds
  · exact hholds.addSurplus _

/-- Options without values leave the settings of a draft as they are. -/
theorem switchOn {kinds : List Switch} (hholds : draft.Holds values)
    (hswitch : draft.switchOn kinds = .ok after) : after.Holds values := by
  induction kinds generalizing draft with
  | nil =>
      cases hswitch
      exact hholds
  | cons kind rest ih =>
      obtain ⟨hschema, hoperation, hdirectory, hendpoint⟩ := hholds
      cases kind with
      | help => cases hswitch
      | stdout =>
          rw [Draft.switchOn] at hswitch
          refine ih ?_ hswitch
          exact ⟨hschema, hoperation, hdirectory, hendpoint⟩
      | verbose =>
          rw [Draft.switchOn] at hswitch
          refine ih ?_ hswitch
          exact ⟨hschema, hoperation, hdirectory, hendpoint⟩

/-- Of the values that a setting is given, the last one counts. -/
theorem lookup_reverse_cons (setting other : Setting) (operand : Operand RawText)
    (given : List (Setting × Operand RawText)) (value : Option (Operand RawText)) :
    (((setting, operand) :: given).reverse.lookup other).or value =
      (given.reverse.lookup other).or (if other = setting then some operand else value) := by
  rw [List.reverse_cons, List.lookup_append, Option.or_assoc, List.lookup_cons]
  by_cases hsetting : other = setting
  · simp [hsetting]
  · rw [beq_false_of_ne hsetting, if_neg hsetting]
    rfl

/-- Of what an option is given by words, the last counts; without any, it is what it was. -/
theorem take (hholds : draft.Holds values) (htake : draft.take words = .ok after) :
    after.Holds fun setting => ((Word.given words).reverse.lookup setting).or (values setting) := by
  fun_induction Draft.take draft words generalizing values with
  | case1 draft =>
      cases htake
      exact hholds
  | case2 draft text rest haction ih => exact ih (hholds.addValue text) htake
  | case3 draft text rest action haction ih =>
      exact ih (hholds.addValue text).addSeparator htake
  | case4 draft text rest hnext ih => exact ih (hholds.addValue text) htake
  | case5 draft rest ih => exact ih hholds.addSeparator htake
  | case6 draft setting attached rest ih =>
      simp only [Word.given, lookup_reverse_cons]
      exact ih (hholds.set _ setting) htake
  | case7 draft setting text rest ih =>
      simp only [Word.given, lookup_reverse_cons]
      exact ih (hholds.set _ setting) htake
  | case8 => cases htake
  | case9 => cases htake
  | case10 draft kinds rest next hswitch ih => exact ih (hholds.switchOn hswitch) htake
  | case11 => cases htake
  | case12 draft text rest ih => exact ih (hholds.addSurplus text) htake

end Holds

/-- The draft with more options without values. -/
def switched (draft : Draft) (toStdout : Bool) (verbosity : Nat) : Draft :=
  { draft with
    toStdout := toStdout || draft.toStdout
    verbosity := verbosity + draft.verbosity }

section Switched

variable (draft) (toStdout : Bool) (verbosity : Nat)

theorem addValue_switched (text : RawText) :
    (draft.switched toStdout verbosity).addValue text =
      (draft.addValue text).switched toStdout verbosity := by
  obtain ⟨action⟩ := draft
  cases action <;> rfl

theorem addSeparator_switched :
    (draft.switched toStdout verbosity).addSeparator =
      draft.addSeparator.switched toStdout verbosity := by
  obtain ⟨action⟩ := draft
  cases action <;> rfl

theorem set_switched (operand : Operand RawText) (setting : Setting) :
    (draft.switched toStdout verbosity).set operand setting =
      (draft.set operand setting).switched toStdout verbosity := by
  cases setting <;> rfl

/-- Options without values can be taken before others of their kind. -/
theorem switchOn_switched (kinds : List Switch) :
    (draft.switched toStdout verbosity).switchOn kinds =
      (draft.switchOn kinds).map (·.switched toStdout verbosity) := by
  induction kinds generalizing draft with
  | nil => rfl
  | cons kind rest ih =>
      cases kind with
      | help => rfl
      | stdout =>
          simp only [switchOn, ← ih]
          simp [switched]
      | verbose =>
          simp only [switchOn, ← ih]
          simp [switched, Nat.add_assoc]

/-- Options without values can be told before all other words. -/
theorem take_switched (words : List Word) :
    (draft.switched toStdout verbosity).take words =
      (draft.take words).map (·.switched toStdout verbosity) := by
  fun_induction Draft.take draft words with
  | case1 draft => rfl
  | case2 draft text rest haction ih =>
      rw [← ih, ← addValue_switched]
      simp [take, switched, haction]
  | case3 draft text rest action haction ih =>
      rw [← ih, ← addSeparator_switched, ← addValue_switched]
      simp [take, switched, haction]
  | case4 draft text rest hnext ih =>
      rw [← ih, ← addValue_switched]
      simp [take]
  | case5 draft rest ih =>
      rw [← ih, ← addSeparator_switched]
      rfl
  | case6 draft setting attached rest ih =>
      rw [← ih, ← set_switched]
      rfl
  | case7 draft setting text rest ih =>
      rw [← ih, ← set_switched]
      rfl
  | case8 draft setting rest hnext =>
      cases rest with
      | nil => rfl
      | cons next rest =>
          cases next with
          | value text => exact absurd rfl (hnext text rest)
          | _ => rfl
  | case9 draft kinds rest refusal hswitch =>
      simp [take, switchOn_switched, hswitch, Except.map]
  | case10 draft kinds rest next hswitch ih =>
      simp [take, switchOn_switched, hswitch, Except.map, ih]
  | case11 => rfl
  | case12 draft text rest ih =>
      rw [← ih]
      rfl

end Switched

end Draft

/-- A request holds the last value that each option is given. -/
structure Request.Holds (request : Request) (texts : List RawText) : Prop where
  schema : (lastGiven texts .schema).map Operand.path = some request.schema
  operation : request.operation = (lastGiven texts .operation).map .path
  outputDirectory : request.outputDirectory = (lastGiven texts .outputDirectory).map .path
  endpointVariable :
    request.endpointVariable = (lastGiven texts .endpointVariable).bind Operand.value?

/-- A request holds the last value that each setting is given on its command line. -/
theorem Request.holds_of_ofTexts (hrequest : Request.ofTexts texts = .ok request) :
    request.Holds texts := by
  unfold Request.ofTexts at hrequest
  split at hrequest
  next => cases hrequest
  next words hwords =>
    split at hrequest
    next => cases hrequest
    next draft hdraft =>
      have hempty : Draft.empty.Holds fun _ => none := ⟨rfl, rfl, rfl, rfl⟩
      have hholds := hempty.take hdraft
      have hgiven : ∀ setting, lastGiven texts setting =
          (Word.given words).reverse.lookup setting := by
        intro setting
        rw [lastGiven, hwords]
      simp only [Option.or_none, ← hgiven] at hholds
      unfold Draft.finish at hrequest
      split at hrequest
      next action schema _ hschema =>
        split at hrequest
        next =>
          cases hrequest
          exact ⟨hholds.schema.symm.trans hschema, hholds.operation, hholds.outputDirectory,
            hholds.endpointVariable⟩
        next => cases hrequest
      next => cases hrequest

theorem Draft.finish_switched (draft : Draft) (toStdout : Bool) (verbosity : Nat) :
    (draft.switched toStdout verbosity).finish =
      draft.finish.map fun request => { request with
        toStdout := toStdout || request.toStdout
        verbosity := verbosity + request.verbosity } := by
  obtain ⟨action, schema, _, _, _, _, _, surplus⟩ := draft
  cases action <;> cases schema <;> cases surplus <;> rfl

/-- Options without values that are told first are all that is different about a request. -/
theorem Request.ofTexts_switches {text : RawText} {kinds : List Switch} {toStdout : Bool}
    {verbosity : Nat} (hseparator : text ≠ Word.separatorText)
    (hword : Word.ofText text = .ok (.switches kinds))
    (hswitches : Draft.empty.switchOn kinds = .ok (Draft.empty.switched toStdout verbosity))
    (hrequest : Request.ofTexts texts = .ok request) :
    Request.ofTexts (text :: texts) = .ok { request with
      toStdout := toStdout || request.toStdout
      verbosity := verbosity + request.verbosity } := by
  unfold Request.ofTexts at hrequest ⊢
  rw [Word.ofTexts, if_neg hseparator, hword]
  split at hrequest
  next => cases hrequest
  next words hwords =>
    split at hrequest
    next => cases hrequest
    next draft hdraft =>
      have htake : Draft.empty.take (.switches kinds :: words) =
          .ok (draft.switched toStdout verbosity) := by
        rw [Draft.take, hswitches]
        simp only [Draft.take_switched, hdraft]
        rfl
      simp only [hwords, bind, Except.bind, pure, Except.pure, htake, Draft.finish_switched,
        hrequest, Except.map]

end ActionHandler.CommandLine
