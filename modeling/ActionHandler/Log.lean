import ActionHandler.Interruption

/-! # Traced computations

A computation may leave records of what it finds, whether it ends well or early. The
records never decide how it ends.
-/

namespace ActionHandler

/-- How important a record is. -/
inductive Level
  | info
  | debug
  deriving DecidableEq, Repr

/-- How a level is written. -/
def Level.text : Level → String
  | .info => "INFO"
  | .debug => "DEBUG"

/-- A line for the log, with the part of the program that it comes from. -/
structure Record where
  level : Level
  source : String
  message : String
  deriving DecidableEq, Repr

/-- How a record is written. -/
def Record.text (record : Record) : String :=
  record.level.text ++ " " ++ record.source ++ ": " ++ record.message

/-- The records of a computation and the way it ended. -/
structure Traced (α : Type) where
  records : List Record
  result : Except Interruption α

namespace Traced

variable {α β : Type}

/-- A computation that leaves one record. -/
def record (level : Level) (source message : String) : Traced Unit :=
  ⟨[⟨level, source, message⟩], .ok ()⟩

/-- A computation without records. -/
def ofExcept (result : Except Interruption α) : Traced α :=
  ⟨[], result⟩

/-- Goes on with the result of a computation, if it has one. -/
def andThen (first : Traced α) (next : α → Traced β) : Traced β :=
  match first.result with
  | .error interruption => ⟨first.records, .error interruption⟩
  | .ok value => ⟨first.records ++ (next value).records, (next value).result⟩

instance : Monad Traced where
  pure value := ⟨[], .ok value⟩
  bind := andThen

@[simp] theorem result_pure (value : α) : (pure value : Traced α).result = .ok value := rfl

@[simp] theorem records_pure (value : α) : (pure value : Traced α).records = [] := rfl

/-- The result of two computations in a row depends on their results alone. -/
@[simp] theorem result_bind (first : Traced α) (next : α → Traced β) :
    (first >>= next).result = first.result >>= fun value => (next value).result := by
  change (andThen first next).result = _
  unfold andThen
  cases first.result <;> rfl

@[simp] theorem result_record (level : Level) (source message : String) :
    (record level source message).result = .ok () := rfl

@[simp] theorem result_ofExcept (result : Except Interruption α) :
    (ofExcept result).result = result := rfl

end Traced

end ActionHandler
