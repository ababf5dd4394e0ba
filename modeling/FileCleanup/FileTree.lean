namespace FileCleanup

/-!
Trees of files, directories and symbolic links.  A place in a tree is the list of names that lead
to it from the top; the top itself is a directory.
-/

abbrev Place := List String

inductive Entry
  | file
  | directory
  | link (target : String)
  deriving DecidableEq, Repr

structure FileTree where
  entries : List (Place × Entry)
  deriving DecidableEq, Repr

namespace FileTree

def empty : FileTree := ⟨[]⟩

def get? (tree : FileTree) (place : Place) : Option Entry :=
  if place = [] then some .directory else tree.entries.lookup place

def insert (tree : FileTree) (place : Place) (entry : Entry) : FileTree :=
  ⟨(place, entry) :: tree.entries.filter (·.1 ≠ place)⟩

def remove (tree : FileTree) (place : Place) : FileTree :=
  ⟨tree.entries.filter (·.1 ≠ place)⟩

private theorem lookup_filter_ne {entries : List (Place × Entry)} {place other : Place} :
    (entries.filter (·.1 ≠ place)).lookup other =
      if other = place then none else entries.lookup other := by
  induction entries with
  | nil => simp
  | cons entry rest induction =>
    obtain ⟨name, found⟩ := entry
    by_cases same : name = place
    · rw [List.filter_cons_of_neg (by simpa using same), induction, List.lookup_cons]
      by_cases equal : other = place
      · rw [if_pos equal, if_pos equal]
      · have differs : (other == name) = false := by simpa [same] using equal
        rw [if_neg equal, if_neg equal, differs]
    · rw [List.filter_cons_of_pos (by simpa using same), List.lookup_cons, List.lookup_cons,
        induction]
      by_cases equal : other = place
      · have differs : (other == name) = false := by simpa [equal] using Ne.symm same
        rw [differs, if_pos equal]
      · rw [if_neg equal, if_neg equal]

theorem get?_remove {tree : FileTree} {place other : Place} (below : place ≠ []) :
    (tree.remove place).get? other = if other = place then none else tree.get? other := by
  unfold get? remove
  by_cases top : other = []
  · simp [top, Ne.symm below]
  · simp only [if_neg top]
    exact lookup_filter_ne

/-- The names of the places below `top`, relative to it: directories end in a slash and links in
an at sign, and all stand in the order of their characters. -/
def listing (tree : FileTree) (top : Place) : List String :=
  let mark : Entry → String
    | .file => ""
    | .directory => "/"
    | .link _ => "@"
  let names := tree.entries.filterMap fun (place, entry) =>
    if top.isPrefixOf place ∧ place ≠ top then
      some ("/".intercalate (place.drop top.length) ++ mark entry)
    else none
  names.mergeSort (fun left right => left ≤ right)

end FileTree

end FileCleanup
