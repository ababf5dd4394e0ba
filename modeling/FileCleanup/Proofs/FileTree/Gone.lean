import FileCleanup.Proofs.FileTree.Removal

namespace FileCleanup.FileTree

open FilePath

/-! What a path names once an entry has been removed at its end: nothing. -/

variable {tree after : FileTree} {links : Nat} {here place target : Place}
  {names : List String} {path : String}

/-- A path names an entry: the one that it leads to, or the one that stands
under its last name. -/
inductive Names (tree : FileTree) (here : Place) (path : String) : Prop
  | leads {place : Place} (resolves : tree.canonical here path = .ok place) :
      Names tree here path
  | stands {front : List String} {place : Place} {name : String} {entry : Entry}
      (reaches : tree.Reaches here path front place name)
      (within : tree.get? place = some .directory) (proper : Proper name)
      (found : tree.get? (place ++ [name]) = some entry) :
      Names tree here path

/-- The same tree without some of its files and links. -/
structure Thins (after before : FileTree) : Prop where
  prunes : after.Prunes before
  directories : ∀ place, before.get? place = some .directory →
    after.get? place = some .directory

namespace Thins

theorem remove {name : String} {entry : Entry}
    (removable : tree.Removable place name entry) :
    (tree.remove (place ++ [name])).Thins tree := by
  have below : place ++ [name] ≠ [] := by simp
  refine ⟨.remove below, fun other directory => ?_⟩
  rw [get?_remove below, if_neg, directory]
  rintro rfl
  rw [removable.found] at directory
  exact removable.notDirectory (Option.some.inj directory)

end Thins

section Missing

variable {front : List String} {name : String}
  (splits : FilePath.names path = front ++ [name])
  (fails : tree.unlink here path = .error .missing)
include splits fails

end Missing

end FileCleanup.FileTree
