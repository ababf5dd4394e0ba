import FileCleanup.Storage.Error
import FileCleanup.Storage.Kind

namespace FileCleanup

/-! Objects kept in memory, for simulations: deletes can be slow, and can fail by key. -/

structure MemoryStorage where
  kind : StorageKind
  objects : List (String × String)
  failingKeys : List String
  /-- Milliseconds that every delete takes. -/
  delay : Nat
  deriving DecidableEq, Repr

namespace MemoryStorage

def empty (kind : StorageKind) : MemoryStorage := ⟨kind, [], [], 0⟩

def Holds (storage : MemoryStorage) (bucket key : String) : Prop :=
  (bucket, key) ∈ storage.objects

instance (storage : MemoryStorage) (bucket key : String) : Decidable (storage.Holds bucket key) :=
  inferInstanceAs (Decidable (_ ∈ _))

def put (storage : MemoryStorage) (bucket key : String) : MemoryStorage :=
  if storage.Holds bucket key then storage
  else { storage with objects := storage.objects ++ [(bucket, key)] }

def failDeletesFor (storage : MemoryStorage) (key : String) : MemoryStorage :=
  { storage with failingKeys := key :: storage.failingKeys }

def clearFailures (storage : MemoryStorage) : MemoryStorage :=
  { storage with failingKeys := [] }

/-- What a delete does once its delay is over. -/
def delete (storage : MemoryStorage) (bucket key : String) :
    Except StorageError Unit × MemoryStorage :=
  if key ∈ storage.failingKeys then
    (.error (.deleteFailed ("simulated failure for " ++ key)), storage)
  else
    (.ok (), { storage with objects := storage.objects.filter (· ≠ (bucket, key)) })

def listing (storage : MemoryStorage) : List String :=
  (storage.objects.map fun (bucket, key) => bucket ++ ":" ++ key).mergeSort
    fun left right => left ≤ right

end MemoryStorage

end FileCleanup
