import ActionHandler.Proofs.Generation.Binding
import ActionHandler.Proofs.Handler.Scope

/-! # Names in the scope of a handler

The arguments of an action are taken out of the request under their own names, in a scope where
the templates use names of their own. Nothing keeps the two apart: a handler declares each name
once, and calls the function that it means to call, just when no argument has one of the names of
the templates.
-/

namespace ActionHandler.Generation

open Graphql Handler

variable {schema action : String} {arguments others : List String}

/-- A schema declares an action with one list of arguments. -/
theorem Declares.unique (hfirst : Declares schema action arguments)
    (hsecond : Declares schema action others) : arguments = others := by
  obtain ⟨document, member, values, hdocument, hmember, hvalues, rfl⟩ := hfirst
  obtain ⟨document', member', values', hdocument', hmember', hvalues', rfl⟩ := hsecond
  obtain rfl : document = document' := Except.ok.inj (hdocument.symm.trans hdocument')
  obtain rfl : member = member' := Option.some.inj (hmember.symm.trans hmember')
  obtain rfl : values = values' := Option.some.inj (hvalues.symm.trans hvalues')
  rfl

/-- Distinct names within others are distinct from these when none of them is one of these. -/
theorem nodup_within_iff {front back : List String} (hothers : (front ++ back).Nodup)
    (hdistinct : arguments.Nodup) :
    (front ++ arguments ++ back).Nodup ↔ ∀ argument ∈ arguments, argument ∉ front ++ back := by
  have hperm : (front ++ arguments ++ back).Perm (arguments ++ (front ++ back)) := by
    rw [← List.append_assoc]
    exact List.perm_append_comm.append_right back
  rw [hperm.nodup_iff, List.nodup_append]
  constructor
  · rintro ⟨_, _, hapart⟩ argument hargument hother
    exact hapart argument hargument argument hother rfl
  · intro hapart
    refine ⟨hdistinct, hothers, ?_⟩
    rintro argument hargument _ hother rfl
    exact hapart argument hargument hother

theorem nodup_plain_iff (hdistinct : arguments.Nodup) :
    (["context", "req"] ++ arguments).Nodup ↔
      ∀ argument ∈ arguments, argument ∉ ["context", "req"] := by
  have hnames : (["context", "req"] ++ []).Nodup := by decide
  simpa using nodup_within_iff hnames hdistinct

theorem nodup_relay_iff (hdistinct : arguments.Nodup) (execute : String) :
    (["context", "req"] ++ arguments ++ ["data", "errors"]).Nodup ∧ execute ∉ arguments ↔
      ∀ argument ∈ arguments, argument ∉ ["context", "req", "data", "errors", execute] := by
  have hnames : (["context", "req"] ++ ["data", "errors"]).Nodup := by decide
  have hlist : ["context", "req", "data", "errors", execute] =
      (["context", "req"] ++ ["data", "errors"]) ++ [execute] := rfl
  rw [nodup_within_iff hnames hdistinct, hlist]
  constructor
  · rintro ⟨hapart, hexecute⟩ argument hargument hmem
    rcases List.mem_append.mp hmem with hother | hother
    · exact hapart argument hargument hother
    · exact hexecute (List.mem_singleton.mp hother ▸ hargument)
  · intro hapart
    refine ⟨fun argument hargument hother => ?_, fun hexecute => ?_⟩
    · exact hapart argument hargument (List.mem_append_left _ hother)
    · exact hapart execute hexecute (List.mem_append_right _ (List.mem_singleton.mpr rfl))

/-- When the arguments of an action are distinct, its handler declares each name once, and calls
the function that it declares for that, just when no argument has a name that the templates use:
a plain one its parameters, and a relaying one also the parts of the answer and the function. -/
theorem scope_of_handler (schema action endpointVariable : String) (operation : Option String)
    (arguments : List String) (artifacts : List Artifact)
    (hdeclares : Declares schema action arguments) (hdistinct : arguments.Nodup)
    (hgenerate : (generate action schema operation endpointVariable).result = .ok artifacts) :
    ∃ content names, artifacts = [⟨action ++ ".js", content⟩] ∧
      scopeNames? content = some names ∧
      ((operationText? operation = none ∧ names = ["context", "req"] ++ arguments ∧
          (names.Nodup ↔ ∀ argument ∈ arguments, argument ∉ ["context", "req"])) ∨
        ∃ source reading, operationText? operation = some source ∧
          names = ["context", "req"] ++ arguments ++ ["data", "errors"] ∧
          relayReading? content = some reading ∧
          ((names.Nodup ∧ reading.called ∉ reading.bound) ↔
            ∀ argument ∈ arguments, argument ∉
              ["context", "req", "data", "errors", executeFunctionName action])) := by
  obtain ⟨facts, content, hfacts, hartifacts, hmode⟩ := handler_of_generate hgenerate
  have hnamed := wellNamed_of_findAction hfacts
  obtain rfl : arguments = facts.arguments := hdeclares.unique (declares_of_findAction hfacts)
  obtain rfl := name_of_findAction hfacts
  rcases hmode with ⟨hoperation, rfl⟩ | ⟨source, derive, hoperation, hderive, rfl⟩
  · exact ⟨_, _, hartifacts, scopeNames?_plain hnamed, .inl ⟨hoperation, rfl,
      nodup_plain_iff hdistinct⟩⟩
  · have hderived := wellNamed_of_findOperation hderive
    exact ⟨_, _, hartifacts, scopeNames?_relaying hnamed hderived source endpointVariable,
      .inr ⟨source, _, hoperation, rfl,
        relayReading?_handler hnamed hderived source endpointVariable,
        nodup_relay_iff hdistinct _⟩⟩

/-- An argument that keeps clear of the names of a relaying handler. -/
theorem scope_with_own_names :
    ∃ content reading,
      (generate "a" "type Mutation\x7ba(input:D):T\x7dtype T\x7bb:B\x7d"
        (some "query($input:D)\x7bc\x7d") "URL").result = .ok [⟨"a.js", content⟩] ∧
      scopeNames? content = some ["context", "req", "input", "data", "errors"] ∧
      ["context", "req", "input", "data", "errors"].Nodup ∧
      relayReading? content = some reading ∧ reading.called ∉ reading.bound := by
  have hfacts : findAction "a" "type Mutation\x7ba(input:D):T\x7dtype T\x7bb:B\x7d" =
      .ok ⟨"a", ["input"], "T", ["b"]⟩ := ok_of_toOption (by decide +kernel)
  have hderive : findOperation "query($input:D)\x7bc\x7d" = .ok ⟨"c", ["input"]⟩ :=
    ok_of_toOption (by decide +kernel)
  have hgenerate := result_generate_of_found "URL" hfacts (by decide) hderive (by decide)
  obtain ⟨content, names, hartifacts, hscope, hmode⟩ := scope_of_handler _ _ _ _ _ _
    (declares_of_findAction hfacts) (by decide) hgenerate
  rw [hartifacts] at hgenerate
  rcases hmode with ⟨hplain, _⟩ | ⟨_, reading, _, hnames, hreading, hclear⟩
  · exact absurd hplain (by decide)
  · subst hnames
    obtain ⟨hnodup, hcalled⟩ := hclear.mpr (by decide)
    exact ⟨content, reading, hgenerate, hscope, hnodup, hreading, hcalled⟩

/-- The answer of the operation is taken apart under a name that an argument already has. -/
theorem argument_named_data :
    ∃ content names,
      (generate "a" "type Mutation\x7ba(data:D):T\x7dtype T\x7bb:B\x7d"
        (some "query($data:D)\x7bc\x7d") "URL").result = .ok [⟨"a.js", content⟩] ∧
      Declares "type Mutation\x7ba(data:D):T\x7dtype T\x7bb:B\x7d" "a" ["data"] ∧
      ["data"].Nodup ∧ scopeNames? content = some names ∧ ¬ names.Nodup := by
  have hfacts : findAction "a" "type Mutation\x7ba(data:D):T\x7dtype T\x7bb:B\x7d" =
      .ok ⟨"a", ["data"], "T", ["b"]⟩ := ok_of_toOption (by decide +kernel)
  have hderive : findOperation "query($data:D)\x7bc\x7d" = .ok ⟨"c", ["data"]⟩ :=
    ok_of_toOption (by decide +kernel)
  exact ⟨_, _, result_generate_of_found "URL" hfacts (by decide) hderive (by decide),
    declares_of_findAction hfacts, by decide,
    scopeNames?_relaying (wellNamed_of_findAction hfacts) (wellNamed_of_findOperation hderive)
      "query($data:D)\x7bc\x7d" "URL", by decide⟩

end ActionHandler.Generation
