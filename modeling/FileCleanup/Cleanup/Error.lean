import FileCleanup.Report
import FileCleanup.Storage.Error
import FileCleanup.Uuid

namespace FileCleanup

/-! What can go wrong in a cleanup batch. -/

inductive CleanupError
  /-- No file could be claimed, so the batch did nothing. -/
  | claim (cause : Report)
  | storage (file : Uuid) (cause : StorageError)
  /-- The object is gone but its record could not be marked deleted. -/
  | finalize (file : Uuid) (cause : Report)
  deriving DecidableEq, Repr

namespace CleanupError

def message : CleanupError → String
  | claim cause => "Failed to claim expired files: " ++ cause.chain
  | storage file cause =>
    "Failed to delete object for file " ++ file.text ++ ": " ++ cause.message
  | finalize file cause => "Failed to finalize file " ++ file.text ++ ": " ++ cause.chain

/-- The messages behind the error's own, nearest first. -/
def causes : CleanupError → List String
  | claim cause => cause.messages
  | storage _ cause => [cause.message]
  | finalize _ cause => cause.messages

def report (error : CleanupError) : Report :=
  ⟨error.message, error.causes⟩

end CleanupError

end FileCleanup
