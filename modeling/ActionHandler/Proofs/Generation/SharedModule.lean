import Mathlib.Data.List.Nodup
import ActionHandler.Proofs.Generation.Names
import ActionHandler.Proofs.Handler.Scope

/-! # Handlers in one module

Handlers that stand one behind another in a module declare their constants and functions at one
level. The names that are derived from the names of the actions are apart there, but every relaying
handler also declares `fetch`, so no two of them can share a module.
-/

namespace ActionHandler.Generation

open Graphql Handler Javascript

/-- That a text is given as the handler of an action, which relays an operation. The name of the
endpoint variable stands in the text as it is, so it has to be an identifier. -/
def GivesRelay (action content : String) : Prop :=
  ∃ schema operation endpointVariable, isIdentifier endpointVariable.toList = true ∧
    operationText? operation ≠ none ∧
    (generate action schema operation endpointVariable).result =
      .ok [⟨fileName action, content⟩]

/-- The names that are derived for an action. -/
def derivedNames (action : String) : List String :=
  [queryConstantName action, executeFunctionName action]

/-- The names that the handler of an action declares in its module. -/
def moduleNames (action : String) : List String :=
  "fetch" :: derivedNames action

variable {action other content name : String} {actions : List String}

/-- Behind the names that a handler declares, its module goes on as it has begun. -/
theorem leads_of_givesRelay (hcontent : GivesRelay action content) :
    IsName action ∧
      Leads ⟨.code, .code 0 false⟩ content.toList (moduleNames action) ⟨.code, .code 0 false⟩ := by
  obtain ⟨schema, operation, endpointVariable, hendpoint, hoperation, hgenerate⟩ := hcontent
  obtain ⟨source, hsource⟩ := Option.ne_none_iff_exists'.mp hoperation
  obtain ⟨facts, derive, hfacts, hderive, hartifacts⟩ := relaying_of_generate hsource hgenerate
  obtain rfl : content = (Context.relaying facts derive source endpointVariable).handler := by
    simpa [artifact] using hartifacts
  have hnamed := wellNamed_of_findAction hfacts
  obtain rfl := name_of_findAction hfacts
  exact ⟨hnamed.name, leads_relaying hnamed (wellNamed_of_findOperation hderive) source hendpoint⟩

theorem leads_join {handlers : List (String × String)}
    (hhandlers : ∀ handler ∈ handlers, GivesRelay handler.1 handler.2) :
    Leads ⟨.code, .code 0 false⟩ (String.join (handlers.map Prod.snd)).toList
      ((handlers.map Prod.fst).flatMap moduleNames) ⟨.code, .code 0 false⟩ := by
  induction handlers with
  | nil => rfl
  | cons handler others ih =>
      obtain ⟨hhandler, hothers⟩ := List.forall_mem_cons.mp hhandlers
      simpa using (leads_of_givesRelay hhandler).2.append (ih hothers)

/-- What handlers declare in a module that they share. -/
theorem declaredNames?_join {handlers : List (String × String)}
    (hhandlers : ∀ handler ∈ handlers, GivesRelay handler.1 handler.2) :
    declaredNames? (String.join (handlers.map Prod.snd)).toList =
      some ((handlers.map Prod.fst).flatMap moduleNames) := by
  have hend : Leads ⟨.code, .code 0 false⟩ ['\n'] [] ⟨.code, .code 0 false⟩ := by decide
  have hmodule := (leads_join hhandlers).append hend
  rw [List.append_nil, Leads] at hmodule
  rw [declaredNames?, hmodule]
  rfl

/-- A derived name tells the action that it is derived for. -/
theorem eq_of_mem_derivedNames (haction : IsName action) (hother : IsName other)
    (hmem : name ∈ derivedNames action) (hmem' : name ∈ derivedNames other) : action = other := by
  simp only [derivedNames, List.mem_cons, List.not_mem_nil, or_false] at hmem hmem'
  rcases hmem with rfl | rfl <;> rcases hmem' with heq | heq
  · exact queryConstantName_inj heq
  · exact absurd heq (queryConstantName_ne_executeFunctionName action other)
  · exact absurd heq.symm (queryConstantName_ne_executeFunctionName other action)
  · exact executeFunctionName_inj haction hother heq

/-- The derived names of different actions are all different. -/
theorem nodup_derivedNames (hnames : ∀ action ∈ actions, IsName action)
    (hdistinct : actions.Nodup) : (actions.flatMap derivedNames).Nodup := by
  refine List.nodup_flatMap.mpr ⟨?_, hdistinct.imp_of_mem ?_⟩
  · intro action _
    simp [derivedNames, queryConstantName_ne_executeFunctionName]
  · intro action other haction hother hne name hmem hmem'
    exact hne (eq_of_mem_derivedNames (hnames action haction) (hnames other hother) hmem hmem')

/-- No derived name begins as `fetch` does. -/
theorem fetch_not_mem_derivedNames (actions : List String) :
    "fetch" ∉ actions.flatMap derivedNames := by
  have hfetch : "fetch".toList.head? = some 'f' := by decide
  intro hmem
  obtain ⟨action, _, hname⟩ := List.mem_flatMap.mp hmem
  simp only [derivedNames, List.mem_cons, List.not_mem_nil, or_false] at hname
  rcases hname with heq | heq
  · rw [heq, head?_queryConstantName] at hfetch
    cases hfetch
  · rw [heq, head?_executeFunctionName] at hfetch
    cases hfetch

theorem count_moduleNames (actions : List String) (name : String) :
    (actions.flatMap moduleNames).count name =
      (actions.flatMap derivedNames).count name + if name = "fetch" then actions.length else 0 := by
  induction actions with
  | nil => simp
  | cons action others ih =>
      have hhead : (moduleNames action).count name =
          (derivedNames action).count name + if name = "fetch" then 1 else 0 := by
        simp only [moduleNames, List.count_cons, beq_iff_eq, @eq_comm _ name]
      simp only [List.flatMap_cons, List.count_append, ih, hhead, List.length_cons]
      split <;> omega

/-- Handlers of distinct actions that share a module declare all names once except for `fetch`,
which each of them declares. -/
theorem names_of_shared_module (handlers : List (String × String))
    (hhandlers : ∀ handler ∈ handlers, GivesRelay handler.1 handler.2)
    (hdistinct : (handlers.map Prod.fst).Nodup) :
    ∃ names, declaredNames? (String.join (handlers.map Prod.snd)).toList = some names ∧
      names = (handlers.map Prod.fst).flatMap moduleNames ∧
      names.count "fetch" = handlers.length ∧
      (∀ name ∈ names, name ≠ "fetch" → names.count name = 1) ∧
      (names.Nodup ↔ handlers.length ≤ 1) := by
  have hnames : ∀ action ∈ handlers.map Prod.fst, IsName action := by
    intro action haction
    obtain ⟨handler, hhandler, rfl⟩ := List.mem_map.mp haction
    exact (leads_of_givesRelay (hhandlers handler hhandler)).1
  have hderived := nodup_derivedNames hnames hdistinct
  have hfetch : ((handlers.map Prod.fst).flatMap moduleNames).count "fetch" = handlers.length := by
    rw [count_moduleNames, List.count_eq_zero.mpr (fetch_not_mem_derivedNames _), if_pos rfl,
      List.length_map, Nat.zero_add]
  have hother : ∀ name ≠ "fetch", ((handlers.map Prod.fst).flatMap moduleNames).count name ≤ 1 := by
    intro name hname
    rw [count_moduleNames, if_neg hname]
    exact List.nodup_iff_count_le_one.mp hderived name
  refine ⟨_, declaredNames?_join hhandlers, rfl, hfetch, ?_, ?_⟩
  · intro name hmem hname
    exact Nat.le_antisymm (hother name hname) (List.count_pos_iff.mpr hmem)
  -- Only `fetch` can repeat, and it does so as often as there are handlers.
  · rw [List.nodup_iff_count_le_one]
    constructor
    · intro hcount
      exact hfetch ▸ hcount "fetch"
    · intro hlength name
      by_cases hname : name = "fetch"
      · rw [hname, hfetch]
        exact hlength
      · exact hother name hname

theorem givesRelay_of_generate {schema source endpointVariable : String} (hsource : source ≠ "")
    (hendpoint : isIdentifier endpointVariable.toList = true)
    (hgenerate : (generate action schema (some source) endpointVariable).result =
      .ok [⟨fileName action, content⟩]) : GivesRelay action content := by
  refine ⟨schema, some source, endpointVariable, hendpoint, ?_, hgenerate⟩
  rw [operationText?_of_ne_empty hsource]
  exact Option.some_ne_none source

/-- The handlers of two actions whose names differ in case only. -/
theorem exists_two_handlers :
    ∃ first second,
      (generate "a" "type Mutation\x7ba:T A:T\x7dtype T\x7bb:B\x7d" (some "\x7bc\x7d")
        "URL").result = .ok [⟨"a.js", first⟩] ∧
      (generate "A" "type Mutation\x7ba:T A:T\x7dtype T\x7bb:B\x7d" (some "\x7bc\x7d")
        "URL").result = .ok [⟨"A.js", second⟩] ∧
      ∀ handler ∈ [("a", first), ("A", second)], GivesRelay handler.1 handler.2 := by
  have hfirst : findAction "a" "type Mutation\x7ba:T A:T\x7dtype T\x7bb:B\x7d" =
      .ok ⟨"a", [], "T", ["b"]⟩ := ok_of_toOption (by decide +kernel)
  have hsecond : findAction "A" "type Mutation\x7ba:T A:T\x7dtype T\x7bb:B\x7d" =
      .ok ⟨"A", [], "T", ["b"]⟩ := ok_of_toOption (by decide +kernel)
  have hderive : findOperation "\x7bc\x7d" = .ok ⟨"c", []⟩ := ok_of_toOption (by decide +kernel)
  have hsource : "\x7bc\x7d" ≠ "" := by decide
  have hgenerate := result_generate_of_found "URL" hfirst hsource hderive rfl
  have hgenerate' := result_generate_of_found "URL" hsecond hsource hderive rfl
  have hendpoint : isIdentifier "URL".toList = true := by decide
  refine ⟨_, _, hgenerate, hgenerate', List.forall_mem_cons.mpr
    ⟨givesRelay_of_generate hsource hendpoint hgenerate, List.forall_mem_singleton.mpr ?_⟩⟩
  exact givesRelay_of_generate hsource hendpoint hgenerate'

/-- Two handlers that relay, for actions that differ in case alone, declare five different names,
one of them twice. -/
theorem names_of_two_handlers :
    ∃ first second,
      (generate "a" "type Mutation\x7ba:T A:T\x7dtype T\x7bb:B\x7d" (some "\x7bc\x7d")
        "URL").result = .ok [⟨"a.js", first⟩] ∧
      (generate "A" "type Mutation\x7ba:T A:T\x7dtype T\x7bb:B\x7d" (some "\x7bc\x7d")
        "URL").result = .ok [⟨"A.js", second⟩] ∧
      declaredNames? (String.join [first, second]).toList =
        some ["fetch", "HASURA_a", "executeA", "fetch", "HASURA_A", "execute_A"] := by
  obtain ⟨first, second, hfirst, hsecond, hhandlers⟩ := exists_two_handlers
  have hdistinct : ["a", "A"].Nodup := by decide
  obtain ⟨names, hmodule, hnames, _⟩ := names_of_shared_module _ hhandlers hdistinct
  have hlist : ["a", "A"].flatMap moduleNames =
      ["fetch", "HASURA_a", "executeA", "fetch", "HASURA_A", "execute_A"] := by decide
  have hdeclared : names = ["a", "A"].flatMap moduleNames := hnames
  rw [hdeclared, hlist] at hmodule
  exact ⟨first, second, hfirst, hsecond, hmodule⟩

/-- Two handlers cannot share a module. -/
theorem two_handlers_declare_fetch :
    ∃ first second names,
      (generate "a" "type Mutation\x7ba:T A:T\x7dtype T\x7bb:B\x7d" (some "\x7bc\x7d")
        "URL").result = .ok [⟨"a.js", first⟩] ∧
      (generate "A" "type Mutation\x7ba:T A:T\x7dtype T\x7bb:B\x7d" (some "\x7bc\x7d")
        "URL").result = .ok [⟨"A.js", second⟩] ∧
      declaredNames? (String.join [first, second]).toList = some names ∧ ¬ names.Nodup := by
  obtain ⟨first, second, hfirst, hsecond, hhandlers⟩ := exists_two_handlers
  have hmodule := declaredNames?_join hhandlers
  have hrepeats : ¬ (["a", "A"].flatMap moduleNames).Nodup := by decide
  exact ⟨first, second, _, hfirst, hsecond, hmodule, hrepeats⟩

end ActionHandler.Generation
