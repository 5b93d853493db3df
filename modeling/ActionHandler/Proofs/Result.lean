import ActionHandler.Log

/-! # Laws of results

A computation in two steps ends as its first step does when that fails, and otherwise as
the second one does.
-/

namespace ActionHandler

variable {ε α β : Type}

@[simp] theorem ok_bind (value : α) (next : α → Except ε β) :
    (Except.ok value >>= next) = next value :=
  rfl

@[simp] theorem error_bind (error : ε) (next : α → Except ε β) :
    (Except.error error >>= next) = .error error :=
  rfl

@[simp] theorem map_ok (function : α → β) (value : α) :
    (function <$> Except.ok value : Except ε β) = .ok (function value) :=
  rfl

@[simp] theorem map_error (function : α → β) (error : ε) :
    (function <$> Except.error error : Except ε β) = .error error :=
  rfl

@[simp] theorem pure_eq_ok (value : α) : (pure value : Except ε α) = .ok value :=
  rfl

/-- Two steps end well when both do. -/
theorem bind_eq_ok_iff {first : Except ε α} {next : α → Except ε β} {result : β} :
    (first >>= next) = .ok result ↔ ∃ value, first = .ok value ∧ next value = .ok result := by
  cases first with
  | error error => simp
  | ok value => simp

/-- Two steps end early when the first one does, or the second one behind it. -/
theorem bind_eq_error_iff {first : Except ε α} {next : α → Except ε β} {error : ε} :
    (first >>= next) = .error error ↔
      first = .error error ∨ ∃ value, first = .ok value ∧ next value = .error error := by
  cases first with
  | error other => simp
  | ok value => simp

/-- A result that has a value is that value, which can be decided without deciding equality of
errors. -/
theorem ok_of_toOption {result : Except ε α} {value : α}
    (hresult : result.toOption = some value) : result = .ok value := by
  cases result with
  | error error => cases hresult
  | ok other => exact congrArg _ (Option.some.inj hresult)

@[simp] theorem Traced.ofExcept_ok_bind (value : α) (next : α → Traced β) :
    (ofExcept (.ok value) >>= next) = next value :=
  rfl

@[simp] theorem Traced.ofExcept_error_bind (interruption : Interruption) (next : α → Traced β) :
    (ofExcept (.error interruption) >>= next) = ofExcept (.error interruption) :=
  rfl

/-- What is done with a value is done with the result, whatever the records are. -/
@[simp] theorem Traced.result_map (function : α → β) (traced : Traced α) :
    (function <$> traced).result = function <$> traced.result := by
  change (traced >>= fun value => pure (function value)).result = _
  rw [result_bind]
  cases traced.result <;> rfl

end ActionHandler
