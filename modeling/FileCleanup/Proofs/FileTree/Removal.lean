import FileCleanup.Proofs.FileTree.Path

namespace FileCleanup.FileTree

open FilePath

/-! What a path names once its links are followed, and what can be removed at
its end. -/

variable {tree after : FileTree} {here : Place} {path : String}

theorem checkPath_eq_ok_iff :
    checkPath path = .ok () ↔
      '\x00' ∉ path.toList ∧ path ≠ "" ∧ path.utf8ByteSize ≤ longestPath := by
  unfold checkPath
  by_cases nul : path.toList.contains '\x00'
  · rw [if_pos nul]
    simp only [List.contains_eq_mem, decide_eq_true_eq] at nul
    simp [nul]
  · rw [if_neg nul]
    simp only [List.contains_eq_mem, decide_eq_true_eq] at nul
    by_cases empty : path = ""
    · simp [empty]
    · by_cases long : longestPath < path.utf8ByteSize
      · simp [empty, long]
      · simp [nul, empty, long, Nat.le_of_not_lt long]

theorem eq_empty_of_checkPath (missing : checkPath path = .error .missing) :
    path = "" := by
  unfold checkPath at missing
  split at missing
  · cases missing
  split at missing
  · assumption
  split at missing <;> cases missing

theorem canonical_eq_ok_iff {place : Place} :
    tree.canonical here path = .ok place ↔
      checkPath path = .ok () ∧
        tree.Leads mostLinks (start here path) (names path) place ∧
        (endsInSlash path → tree.get? place = some .directory) := by
  unfold canonical
  cases legal : checkPath path with
  | error fault => simp [bind, Except.bind]
  | ok =>
      cases walks : tree.walk mostLinks (start here path) (names path) with
      | error fault =>
          simp [bind, Except.bind, ← walk_eq_ok_iff, walks]
      | ok target =>
          simp only [bind, Except.bind, ← walk_eq_ok_iff, walks]
          by_cases broken :
              endsInSlash path ∧ tree.get? target ≠ some .directory
          · rw [if_pos broken]
            constructor
            · rintro ⟨⟩
            · rintro ⟨_, ⟨⟩, slash⟩
              exact absurd (slash broken.1) broken.2
          · rw [if_neg broken]
            constructor
            · rintro ⟨⟩
              refine ⟨trivial, rfl, fun ends => ?_⟩
              exact Decidable.not_not.mp (not_and.mp broken ends)
            · rintro ⟨_, ⟨⟩, _⟩
              rfl

theorem parentOf_of_names {front : List String} {name : String}
    (legal : checkPath path = .ok ()) (splits : names path = front ++ [name]) :
    tree.parentOf here path =
      (tree.walk mostLinks (start here path) front).bind fun place =>
        if tree.get? place = some .directory then .ok (place, some name)
        else .error .notDirectory := by
  unfold parentOf
  simp only [legal, splits, List.dropLast_concat, List.getLast?_concat, bind,
    Except.bind]
  cases tree.walk mostLinks (start here path) front with
  | error fault => rfl
  | ok place =>
      by_cases directory : tree.get? place = some .directory
      · simp only [if_neg (not_not_intro directory), if_pos directory]
        rfl
      · simp only [if_pos directory, if_neg directory]
        rfl

/-- What becomes of a name in the place that its path leads to. -/
def removeNamed (tree : FileTree) (slash : Bool) (place : Place)
    (name : String) : Except PathFault FileTree :=
  if tree.get? place ≠ some .directory then .error .notDirectory
  else if name = "." ∨ name = ".." then .error .isDirectory
  else if longestName < name.utf8ByteSize then .error .tooLong
  else
    match tree.get? (place ++ [name]) with
    | none => .error .missing
    | some .directory => .error .isDirectory
    | some _ =>
      if slash then .error .notDirectory
      else .ok (tree.remove (place ++ [name]))

theorem unlink_of_names {front : List String} {name : String}
    (legal : checkPath path = .ok ()) (splits : names path = front ++ [name]) :
    tree.unlink here path =
      (tree.walk mostLinks (start here path) front).bind fun place =>
        tree.removeNamed (endsInSlash path) place name := by
  unfold unlink removeNamed
  rw [parentOf_of_names legal splits]
  cases tree.walk mostLinks (start here path) front with
  | error fault => rfl
  | ok place =>
      by_cases directory : tree.get? place = some .directory
      · simp only [bind, Except.bind, directory, if_true, ne_eq,
          not_true_eq_false, if_false]
        by_cases dots : name = "." ∨ name = ".."
        · simp only [if_pos dots]
          rfl
        · by_cases long : longestName < name.utf8ByteSize
          · simp only [if_neg dots, if_pos long]
            rfl
          · simp only [if_neg dots, if_neg long]
            cases tree.get? (place ++ [name]) with
            | none => rfl
            | some entry =>
                cases entry with
                | directory => rfl
                | _ => cases endsInSlash path <;> rfl
      · simp only [bind, Except.bind, if_neg directory, if_pos directory]

theorem unlink_of_names_nil (empty : names path = []) :
    tree.unlink here path ≠ .ok after := by
  unfold unlink parentOf
  cases checkPath path with
  | error fault =>
      rintro ⟨⟩
  | ok =>
      simp only [empty, bind, Except.bind, List.dropLast_nil, walk_nil]
      by_cases top : tree.get? (start here path) = some .directory
      · simp only [if_neg (not_not_intro top)]
        rintro ⟨⟩
      · simp only [if_pos top]
        rintro ⟨⟩

theorem unlink_of_illegal {fault : PathFault}
    (illegal : checkPath path = .error fault) :
    tree.unlink here path = .error fault := by
  unfold unlink parentOf
  rw [illegal]
  rfl

theorem checkPath_of_unlink (removed : tree.unlink here path = .ok after) :
    checkPath path = .ok () := by
  cases legal : checkPath path with
  | ok => rfl
  | error fault => cases removed.symm.trans (unlink_of_illegal legal)

/-- An entry that can be removed under its name: it stands in the directory
at `place` and is no directory itself. -/
structure Removable (tree : FileTree) (place : Place) (name : String)
    (entry : Entry) : Prop where
  within : tree.get? place = some .directory
  proper : Proper name
  found : tree.get? (place ++ [name]) = some entry
  notDirectory : entry ≠ .directory

theorem removeNamed_of_proper {slash : Bool} {place : Place} {name : String}
    (within : tree.get? place = some .directory) (proper : Proper name) :
    tree.removeNamed slash place name =
      match tree.get? (place ++ [name]) with
      | none => .error .missing
      | some .directory => .error .isDirectory
      | some _ =>
        if slash then .error .notDirectory
        else .ok (tree.remove (place ++ [name])) := by
  obtain ⟨dot, dots, short⟩ := proper
  rw [removeNamed, if_neg (not_not_intro within),
    if_neg (not_or.mpr ⟨dot, dots⟩), if_neg (Nat.not_lt.mpr short)]

theorem removeNamed_of_improper {slash : Bool} {place : Place} {name : String}
    (improper : ¬(tree.get? place = some .directory ∧ Proper name)) :
    ∃ fault, fault ≠ .missing ∧
      tree.removeNamed slash place name = .error fault := by
  unfold removeNamed
  by_cases within : tree.get? place = some .directory
  · by_cases dots : name = "." ∨ name = ".."
    · exact ⟨.isDirectory, by decide, by simp [within, dots]⟩
    · have long : longestName < name.utf8ByteSize := by
        apply Nat.lt_of_not_le
        intro short
        obtain ⟨dot, dots⟩ := not_or.mp dots
        exact improper ⟨within, dot, dots, short⟩
      exact ⟨.tooLong, by decide, by simp [within, dots, long]⟩
  · exact ⟨.notDirectory, by decide, if_pos within⟩

theorem removeNamed_eq_ok_iff {slash : Bool} {place : Place} {name : String} :
    tree.removeNamed slash place name = .ok after ↔
      slash = false ∧ (∃ entry, tree.Removable place name entry) ∧
        after = tree.remove (place ++ [name]) := by
  by_cases fits : tree.get? place = some .directory ∧ Proper name
  · obtain ⟨within, proper⟩ := fits
    rw [removeNamed_of_proper within proper]
    constructor
    · intro removed
      cases found : tree.get? (place ++ [name]) with
      | none =>
          rw [found] at removed
          cases removed
      | some entry =>
          rw [found] at removed
          cases entry with
          | directory => cases removed
          | _ =>
              cases slash with
              | true => cases removed
              | false =>
                  cases removed
                  exact ⟨rfl, ⟨_, within, proper, found, by rintro ⟨⟩⟩, rfl⟩
    · rintro ⟨rfl, ⟨entry, removable⟩, rfl⟩
      rw [removable.found]
      cases entry with
      | directory => exact absurd rfl removable.notDirectory
      | _ => rfl
  · obtain ⟨fault, _, fails⟩ := removeNamed_of_improper fits
    rw [fails]
    constructor
    · rintro ⟨⟩
    · rintro ⟨_, ⟨entry, removable⟩, _⟩
      exact absurd ⟨removable.within, removable.proper⟩ fits

theorem removeNamed_eq_missing_iff {slash : Bool} {place : Place}
    {name : String} :
    tree.removeNamed slash place name = .error .missing ↔
      tree.get? place = some .directory ∧ Proper name ∧
        tree.get? (place ++ [name]) = none := by
  by_cases fits : tree.get? place = some .directory ∧ Proper name
  · obtain ⟨within, proper⟩ := fits
    rw [removeNamed_of_proper within proper]
    cases found : tree.get? (place ++ [name]) with
    | none => exact ⟨fun _ => ⟨within, proper, rfl⟩, fun _ => rfl⟩
    | some entry =>
        constructor
        · intro fails
          cases entry with
          | directory => cases fails
          | _ => cases slash <;> cases fails
        · rintro ⟨_, _, ⟨⟩⟩
  · obtain ⟨fault, other, fails⟩ := removeNamed_of_improper fits
    rw [fails]
    constructor
    · rintro ⟨⟩
      exact absurd rfl other
    · rintro ⟨within, proper, _⟩
      exact absurd ⟨within, proper⟩ fits

/-- A path that ends in a name, to be looked up in the place that the names
before it lead to. -/
structure Reaches (tree : FileTree) (here : Place) (path : String)
    (front : List String) (place : Place) (name : String) : Prop where
  legal : checkPath path = .ok ()
  noSlash : endsInSlash path = false
  splits : names path = front ++ [name]
  leads : tree.Leads mostLinks (start here path) front place

theorem unlink_eq_ok_iff :
    tree.unlink here path = .ok after ↔
      ∃ front place name entry, tree.Reaches here path front place name ∧
        tree.Removable place name entry ∧
        after = tree.remove (place ++ [name]) := by
  constructor
  · intro removed
    have legal := checkPath_of_unlink removed
    rcases List.eq_nil_or_concat (names path) with
      empty | ⟨front, name, splits⟩
    · exact absurd removed (unlink_of_names_nil empty)
    rw [List.concat_eq_append] at splits
    rw [unlink_of_names legal splits] at removed
    cases walks : tree.walk mostLinks (start here path) front with
    | error fault =>
        rw [walks] at removed
        cases removed
    | ok place =>
        rw [walks] at removed
        obtain ⟨noSlash, ⟨entry, removable⟩, same⟩ :=
          removeNamed_eq_ok_iff.mp removed
        have leads := leads_of_walk walks
        exact ⟨front, place, name, entry, ⟨legal, noSlash, splits, leads⟩,
          removable, same⟩
  · rintro ⟨front, place, name, entry, ⟨legal, noSlash, splits, leads⟩,
      removable, same⟩
    rw [unlink_of_names legal splits, leads.walk_eq]
    exact removeNamed_eq_ok_iff.mpr ⟨noSlash, ⟨entry, removable⟩, same⟩

/-- A path names the entry that is removed at its end, unless that is a
link. -/
theorem Reaches.canonical_eq {front : List String} {place : Place}
    {name : String} {entry : Entry}
    (reaches : tree.Reaches here path front place name)
    (removable : tree.Removable place name entry)
    (notLink : ∀ target, entry ≠ .link target) :
    tree.canonical here path = .ok (place ++ [name]) := by
  apply canonical_eq_ok_iff.mpr
  refine ⟨reaches.legal, leads_of_walk ?_, fun ends => ?_⟩
  · obtain ⟨left, _, same⟩ := reaches.leads.walk_append
    rw [reaches.splits, same, walk_enter removable.within removable.proper
      removable.found notLink, walk_nil]
  · rw [reaches.noSlash] at ends
    cases ends

/-! Below a directory without links, a path that breaks off has nothing at its
end to remove. -/

section Descent

variable {root : Place} (free : tree.LinkFree root)
include free

theorem LinkFree.walk_singleton_missing_iff {links : Nat} {place : Place}
    {name : String} (below : root <+: place)
    (descending : name = "." ∨ Proper name) :
    tree.walk links place [name] = .error .missing ↔
      tree.get? place = some .directory ∧ Proper name ∧
        tree.get? (place ++ [name]) = none := by
  by_cases directory : tree.get? place = some .directory
  · rcases descending with rfl | proper
    · rw [walk_stay directory, walk_nil]
      constructor
      · rintro ⟨⟩
      · rintro ⟨_, proper, _⟩
        exact absurd rfl proper.1
    · rw [free.walk_cons below directory proper, walk_nil]
      split
      · rename_i absent
        exact ⟨fun _ => ⟨directory, proper, absent⟩, fun _ => rfl⟩
      · rename_i present
        constructor
        · rintro ⟨⟩
        · rintro ⟨_, _, absent⟩
          exact absurd absent present
  · rw [FileTree.walk_cons, if_pos directory]
    constructor
    · rintro ⟨⟩
    · rintro ⟨within, _⟩
      exact absurd within directory

variable {above names : List String}
  (leads : tree.Leads mostLinks (start here path) above root)
  (splits : FilePath.names path = above ++ names)
  (descending : Descending names)
include leads splits descending

theorem LinkFree.unlink_eq_missing_iff
    (within : tree.get? root = some .directory)
    (legal : checkPath path = .ok ())
    (nonempty : names ≠ []) :
    tree.unlink here path = .error .missing ↔
      tree.BreaksOff root (names.filter (· ≠ ".")) := by
  obtain ⟨front, name, rfl⟩ :=
    (List.eq_nil_or_concat names).resolve_left nonempty
  rw [List.concat_eq_append] at splits descending ⊢
  have outer := descending.left
  obtain ⟨left, _, same⟩ := leads.walk_append
  -- Below the root no link is met, so it does not matter how many are left.
  rw [unlink_of_names legal (splits.trans (List.append_assoc _ _ _).symm), same,
    ← free.walk_missing_iff (List.prefix_refl _) within descending,
    free.walk_append (List.prefix_refl _) outer]
  cases walks : tree.walk left root front with
  | error fault => simp only [Except.bind, Except.error.injEq]
  | ok place =>
      have below := free.below_of_leads (List.prefix_refl _) outer
        (leads_of_walk walks)
      refine removeNamed_eq_missing_iff.trans ?_
      exact (free.walk_singleton_missing_iff below
        (descending name (by simp))).symm

/-- What is removed is a file, and what its path names. -/
theorem LinkFree.canonical_of_unlink
    (nonempty : names ≠ []) (removed : tree.unlink here path = .ok after) :
    ∃ place, tree.canonical here path = .ok place ∧
      tree.get? place = some .file := by
  obtain ⟨front, place, name, entry, reaches, removable, _⟩ :=
    unlink_eq_ok_iff.mp removed
  obtain ⟨inner, last, rfl⟩ :=
    (List.eq_nil_or_concat names).resolve_left nonempty
  rw [List.concat_eq_append] at splits descending
  have ends : above ++ inner ++ [last] = front ++ [name] := by
    rw [List.append_assoc, ← splits, reaches.splits]
  cases (List.append_inj' ends rfl).1
  obtain ⟨middle, outer, onward⟩ := reaches.leads.of_append
  cases outer.unique leads
  have below :=
    free.below_of_leads (List.prefix_refl _) descending.left onward
  have notLink : ∀ target, entry ≠ .link target := by
    rintro target rfl
    exact free _ target (below.trans (List.prefix_append _ _)) removable.found
  refine ⟨place ++ [name], reaches.canonical_eq removable notLink, ?_⟩
  rw [removable.found]
  cases entry with
  | file => rfl
  | directory => exact absurd rfl removable.notDirectory
  | link target => exact absurd rfl (notLink target)

end Descent

end FileCleanup.FileTree
