import FileCleanup.FileTree.Path
import FileCleanup.Log
import FileCleanup.Storage.Address

namespace FileCleanup

/-!
Objects as files: the object of a bucket and a key is the file of that key in the directory of
that bucket, below one root directory.
-/

structure LocalStorage where
  tree : FileTree
  /-- The directory that relative paths start from. -/
  here : Place
  root : String
  deriving DecidableEq, Repr

namespace LocalStorage

/-- Makes the root directory if it is missing. -/
def openRoot (tree : FileTree) (here : Place) (root : String) :
    Except StorageError LocalStorage :=
  match tree.makeDirectories here root with
  | .ok tree => .ok ⟨tree, here, root⟩
  | .error fault =>
    .error (.configuration
      ("Failed to create storage directory " ++ root ++ ": " ++ fault.message))

def objectPath (storage : LocalStorage) (bucket key : String) : String :=
  FilePath.join (FilePath.join storage.root bucket) key

/-- Rejects invalid addresses, and valid ones that links lead out of the root directory. -/
def checkAddress (storage : LocalStorage) (bucket key : String) : Except StorageError Unit := do
  (Address.checkBucket bucket).mapError Address.Fault.error
  (Address.checkKey key).mapError Address.Fault.error
  match storage.tree.canonical storage.here (storage.objectPath bucket key) with
  | .error _ => return ()
  | .ok place =>
    match storage.tree.canonical storage.here storage.root with
    | .error fault =>
      throw (.configuration ("Failed to canonicalize base path: " ++ fault.message))
    | .ok root =>
      if root.isPrefixOf place then return ()
      else throw (.invalidKey "Storage key resolves outside storage directory")

def logTarget : String := "backoffice_storage::local"

def deleted (path key : String) : LogEvent :=
  ⟨.info, logTarget, "Local storage delete successful", [("path", .text path), ("key", .text key)]⟩

def alreadyAbsent (path : String) : LogEvent :=
  ⟨.debug, logTarget, "Local file already absent", [("path", .text path)]⟩

def deleteFailed (fault : PathFault) (path : String) : LogEvent :=
  ⟨.error, logTarget, "Local storage delete failed",
    [("error", .text fault.message), ("path", .text path)]⟩

/-- Deletes the file of an object; one that is absent counts as deleted. -/
def delete (storage : LocalStorage) (bucket key : String) :
    Except StorageError Unit × List LogEvent × LocalStorage :=
  match storage.checkAddress bucket key with
  | .error problem => (.error problem, [], storage)
  | .ok () =>
    let path := storage.objectPath bucket key
    match storage.tree.unlink storage.here path with
    | .ok tree => (.ok (), [deleted path key], { storage with tree })
    | .error .missing => (.ok (), [alreadyAbsent path], storage)
    | .error fault =>
      (.error (.deleteFailed ("Failed to delete file " ++ path ++ ": " ++ fault.message)),
        [deleteFailed fault path], storage)

end LocalStorage

end FileCleanup
