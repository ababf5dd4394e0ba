import FileCleanup.FileTree
import FileCleanup.Text.Split

namespace FileCleanup

open Text

/-!
Paths and what they lead to.  A path is walked from the top or from a working directory, name by
name, through the symbolic links on the way.
-/

/-- What the file system answers instead of doing what was asked. -/
inductive PathFault
  | missing
  | notDirectory
  | isDirectory
  | alreadyThere
  | tooManyLinks
  | tooLong
  | containsNul
  deriving DecidableEq, Repr

def PathFault.message : PathFault → String
  | missing => "No such file or directory (os error 2)"
  | notDirectory => "Not a directory (os error 20)"
  | isDirectory => "Is a directory (os error 21)"
  | alreadyThere => "File exists (os error 17)"
  | tooManyLinks => "Too many levels of symbolic links (os error 40)"
  | tooLong => "File name too long (os error 36)"
  | containsNul => "file name contained an unexpected NUL byte"

namespace FilePath

/-- The names in a path; repeated and closing slashes add none. -/
def names (path : String) : List String :=
  (split '/' path).filter (· ≠ "")

def isAbsolute (path : String) : Bool :=
  path.toList.head? = some '/'

def endsInSlash (path : String) : Bool :=
  path.toList.getLast? = some '/'

/-- A path below another one. -/
def join (path name : String) : String :=
  if path = "" ∨ endsInSlash path then path ++ name else path ++ "/" ++ name

/-- Bytes in the longest name. -/
def longestName : Nat := 255

/-- Bytes in the longest path. -/
def longestPath : Nat := 4095

/-- Symbolic links that one walk follows at most. -/
def mostLinks : Nat := 40

/-- Where a path starts, for a process or a link at `here`. -/
def start (here : Place) (path : String) : Place :=
  if isAbsolute path then [] else here

end FilePath

namespace FileTree

open FilePath

/-- Walks along names; `follow` continues at a link. -/
def walkNames (tree : FileTree) (follow : Place → List String → Except PathFault Place) :
    Place → List String → Except PathFault Place
  | place, [] => .ok place
  | place, name :: rest =>
    if tree.get? place ≠ some .directory then .error .notDirectory
    else if name = "." then walkNames tree follow place rest
    else if name = ".." then walkNames tree follow place.dropLast rest
    else if longestName < name.utf8ByteSize then .error .tooLong
    else
      match tree.get? (place ++ [name]) with
      | none => .error .missing
      | some (.link target) => follow (start place target) (names target ++ rest)
      | some _ => walkNames tree follow (place ++ [name]) rest

/-- Where names lead from a place, through at most `links` symbolic links. -/
def walk (tree : FileTree) : Nat → Place → List String → Except PathFault Place
  | 0 => walkNames tree fun _ _ => .error .tooManyLinks
  | links + 1 => walkNames tree (walk tree links)

/-- Rejects what no file system call takes as a path. -/
def checkPath (path : String) : Except PathFault Unit :=
  if path.toList.contains '\x00' then .error .containsNul
  else if path = "" then .error .missing
  else if longestPath < path.utf8ByteSize then .error .tooLong
  else .ok ()

/-- The place a path names once all links in it are followed. -/
def canonical (tree : FileTree) (here : Place) (path : String) : Except PathFault Place := do
  checkPath path
  let place ← tree.walk mostLinks (start here path) (names path)
  if endsInSlash path ∧ tree.get? place ≠ some .directory then throw .notDirectory
  return place

def isDirectory (tree : FileTree) (here : Place) (path : String) : Bool :=
  match tree.canonical here path with
  | .ok place => tree.get? place = some .directory
  | .error _ => false

/-- The directory that holds the last name of a path, and that name. -/
def parentOf (tree : FileTree) (here : Place) (path : String) :
    Except PathFault (Place × Option String) := do
  checkPath path
  let place ← tree.walk mostLinks (start here path) (names path).dropLast
  if tree.get? place ≠ some .directory then throw .notDirectory
  return (place, (names path).getLast?)

/-- Removes a file or a link, never a directory.  A link at the end of the path is not
followed. -/
def unlink (tree : FileTree) (here : Place) (path : String) : Except PathFault FileTree := do
  let (place, name?) ← tree.parentOf here path
  match name? with
  | none => throw .isDirectory
  | some name =>
    if name = "." ∨ name = ".." then throw .isDirectory
    if longestName < name.utf8ByteSize then throw .tooLong
    match tree.get? (place ++ [name]) with
    | none => throw .missing
    | some .directory => throw .isDirectory
    | some _ =>
      if endsInSlash path then throw .notDirectory
      return tree.remove (place ++ [name])

def makeDirectory (tree : FileTree) (here : Place) (path : String) : Except PathFault FileTree := do
  let (place, name?) ← tree.parentOf here path
  match name? with
  | none => throw .alreadyThere
  | some name =>
    if name = "." ∨ name = ".." then throw .alreadyThere
    if longestName < name.utf8ByteSize then throw .tooLong
    match tree.get? (place ++ [name]) with
    | some _ => throw .alreadyThere
    | none => return tree.insert (place ++ [name]) .directory

/-- The paths of the directories above a path, nearest first. -/
def ancestors (path : String) : List String :=
  let top := if isAbsolute path then "/" else ""
  let parts := (names path).filter (· ≠ ".")
  (List.range parts.length).reverse.map fun count => top ++ "/".intercalate (parts.take count)

/-- Makes a directory after those that are missing above it.  A directory that is there already
will do. -/
def makeAll (tree : FileTree) (here : Place) (path : String) :
    List String → Except PathFault FileTree
  | [] =>
    match tree.makeDirectory here path with
    | .ok tree => .ok tree
    | .error fault => if tree.isDirectory here path then .ok tree else .error fault
  | above :: more =>
    match tree.makeDirectory here path with
    | .ok tree => .ok tree
    | .error .missing => do
      let tree ← if above = "" then pure tree else makeAll tree here above more
      match tree.makeDirectory here path with
      | .ok tree => .ok tree
      | .error fault => if tree.isDirectory here path then .ok tree else .error fault
    | .error fault => if tree.isDirectory here path then .ok tree else .error fault

def makeDirectories (tree : FileTree) (here : Place) (path : String) :
    Except PathFault FileTree :=
  if path = "" then .ok tree else tree.makeAll here path (ancestors path)

end FileTree

end FileCleanup
