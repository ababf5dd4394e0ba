import FileCleanup.Settings
import FileCleanup.Storage.Buckets
import FileCleanup.Storage.Local

namespace FileCleanup

/-! Opening the object store that the settings ask for. -/

inductive OpenStorage
  | s3 (region : String) (endpoint : Option String)
  | directory (storage : LocalStorage)
  deriving DecidableEq, Repr

namespace OpenStorage

def kind : OpenStorage → StorageKind
  | s3 _ _ => .s3
  | directory _ => .directory

/-- An S3 client needs a region of more than blanks; buckets are looked up later. -/
def openS3 (region : String) (endpoint : Option String) : Except StorageError OpenStorage := do
  Buckets.checkRegion region
  return .s3 region endpoint

/-- Opens the store in a file system; the region set for S3 alone comes first. -/
def create (settings : StorageSettings) (tree : FileTree) (here : Place) :
    Except StorageError OpenStorage :=
  match settings.kind with
  | .s3 =>
    match settings.s3Region.or settings.awsRegion with
    | none => .error (.configuration "S3_REGION or AWS_REGION not configured")
    | some region => openS3 region settings.s3Endpoint
  | .directory =>
    match settings.localPath with
    | none => .error (.configuration "LOCAL_STORAGE_PATH not configured")
    | some path => (LocalStorage.openRoot tree here path).map .directory

end OpenStorage

end FileCleanup
