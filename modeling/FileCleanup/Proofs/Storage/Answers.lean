import FileCleanup.Proofs.FileTree.Gone
import FileCleanup.Proofs.Storage.Absence

namespace FileCleanup

/-! What a delete answers is what has happened. -/

section Truthful

variable {Store Thing : Type}
  {delete : Store → Except StorageError Unit × Store} {found : Store → Prop}
  {has : Store → Thing → Prop} {store after : Store}

end Truthful

namespace LocalStorage

variable {storage : LocalStorage} {bucket key : String}

/-- What a delete answers and leaves. -/
def outcome (bucket key : String) (storage : LocalStorage) :
    Except StorageError Unit × LocalStorage :=
  ((storage.delete bucket key).1, (storage.delete bucket key).2.2)

/-- The path of the object names an entry. -/
def Names (bucket key : String) (storage : LocalStorage) : Prop :=
  storage.tree.Names storage.here (storage.objectPath bucket key)

def Has (storage : LocalStorage) (thing : Place × Entry) : Prop :=
  storage.tree.get? thing.1 = some thing.2

end LocalStorage

namespace Buckets

/-- What a delete answers and leaves. -/
def outcome (bucket key : String) (buckets : Buckets) :
    Except StorageError Unit × Buckets :=
  ((buckets.delete bucket key).1, (buckets.delete bucket key).2.2)

end Buckets

end FileCleanup
