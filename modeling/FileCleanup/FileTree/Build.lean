import FileCleanup.FileTree.Path

namespace FileCleanup.FileTree

open FilePath

/-! Putting entries into a tree, with the directories above them. -/

/-- The path of the directory that holds the last name of a path. -/
def directoryOf (path : String) : String :=
  (ancestors path).headD ""

/-- The place that a file written at a path has: behind links at the end of the path, also behind
those that lead to nothing yet. -/
def landing? (tree : FileTree) : Nat → Place → String → Option Place
  | links, here, path =>
    match tree.parentOf here path with
    | .ok (parent, some name) =>
      match tree.get? (parent ++ [name]), links with
      | some (.link target), links + 1 => tree.landing? links parent target
      | some (.link _), 0 => none
      | _, _ => some (parent ++ [name])
    | _ => none

/-- Writes a file; one that is there already is kept. -/
def addFile (tree : FileTree) (here : Place) (path : String) : FileTree :=
  match tree.makeDirectories here (directoryOf path) with
  | .error _ => tree
  | .ok tree =>
    match tree.landing? mostLinks here path with
    | some place => if (tree.get? place).isSome then tree else tree.insert place .file
    | none => tree

/-- Makes a link where there is no entry yet. -/
def addLink (tree : FileTree) (here : Place) (path target : String) : FileTree :=
  match tree.makeDirectories here (directoryOf path) with
  | .error _ => tree
  | .ok tree =>
    match tree.parentOf here path with
    | .ok (parent, some name) =>
      if (tree.get? (parent ++ [name])).isSome then tree
      else tree.insert (parent ++ [name]) (.link target)
    | _ => tree

def addDirectory (tree : FileTree) (here : Place) (path : String) : FileTree :=
  match tree.makeDirectories here path with
  | .ok tree => tree
  | .error _ => tree

end FileCleanup.FileTree
