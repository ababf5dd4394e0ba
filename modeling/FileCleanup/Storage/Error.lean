namespace FileCleanup

/-! Why an object store could not do what it was asked. -/

inductive StorageError
  | deleteFailed (reason : String)
  | invalidKey (reason : String)
  | backend (reason : String)
  | configuration (reason : String)
  deriving DecidableEq, Repr

def StorageError.message : StorageError → String
  | deleteFailed reason => "Delete failed: " ++ reason
  | invalidKey reason => "Invalid storage key: " ++ reason
  | backend reason => "Storage backend error: " ++ reason
  | configuration reason => "Configuration error: " ++ reason

end FileCleanup
