import ActionHandler.Files.Path
import ActionHandler.Text.Quoted

/-! # Errors of the file system -/

namespace ActionHandler.Files

/-- Why a request to the file system fails. -/
inductive OsErrorKind
  | notFound
  | exists
  | notDirectory
  | isDirectory
  | nameTooLong
  /-- Any other cause, with its number and its words. -/
  | other (number : Nat) (text : String)
  deriving DecidableEq, Repr

namespace OsErrorKind

/-- The number by which a cause is known. -/
def number : OsErrorKind → Nat
  | .notFound => 2
  | .exists => 17
  | .notDirectory => 20
  | .isDirectory => 21
  | .nameTooLong => 36
  | .other number _ => number

/-- The words for a cause. -/
def text : OsErrorKind → String
  | .notFound => "No such file or directory"
  | .exists => "File exists"
  | .notDirectory => "Not a directory"
  | .isDirectory => "Is a directory"
  | .nameTooLong => "File name too long"
  | .other _ text => text

end OsErrorKind

/-- A request that failed, with the path that it was about. -/
structure OsError where
  kind : OsErrorKind
  path : Path
  deriving DecidableEq, Repr

/-- The words for a request that failed. -/
def OsError.message (error : OsError) : String :=
  "[Errno " ++ toString error.kind.number ++ "] " ++ error.kind.text ++ ": " ++
    Text.Quoted.quote error.path.text

end ActionHandler.Files
