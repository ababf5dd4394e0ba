import FileCleanup.FileTree.Path

namespace FileCleanup.FileTree

open FilePath

/-! Where walks along names end, and what becomes of them as entries go. -/

variable {tree : FileTree} {links : Nat} {place target : Place}
  {names : List String}

@[simp] theorem walk_nil (tree : FileTree) (links : Nat) (place : Place) :
    tree.walk links place [] = .ok place := by
  cases links <;> rfl

theorem walk_cons (tree : FileTree) (links : Nat) (place : Place)
    (name : String) (rest : List String) :
    tree.walk links place (name :: rest) =
      if tree.get? place ≠ some .directory then .error .notDirectory
      else if name = "." then tree.walk links place rest
      else if name = ".." then tree.walk links place.dropLast rest
      else if longestName < name.utf8ByteSize then .error .tooLong
      else
        match tree.get? (place ++ [name]), links with
        | none, _ => .error .missing
        | some (.link _), 0 => .error .tooManyLinks
        | some (.link path), links + 1 =>
          tree.walk links (start place path) (FilePath.names path ++ rest)
        | some _, links => tree.walk links (place ++ [name]) rest := by
  cases links <;> simp only [walk, walkNames] <;>
    rcases tree.get? (place ++ [name]) with _ | _ | _ | _ <;> rfl

/-- A name that is a step of its own and no longer than a name may be. -/
def Proper (name : String) : Prop :=
  name ≠ "." ∧ name ≠ ".." ∧ name.utf8ByteSize ≤ longestName

/-- Walks that come to their end; they follow at most `links` links. -/
inductive Leads (tree : FileTree) : Nat → Place → List String → Place → Prop
  | here (links : Nat) (place : Place) : Leads tree links place [] place
  | stay {links : Nat} {place target : Place} {rest : List String}
      (directory : tree.get? place = some .directory)
      (onward : Leads tree links place rest target) :
      Leads tree links place ("." :: rest) target
  | up {links : Nat} {place target : Place} {rest : List String}
      (directory : tree.get? place = some .directory)
      (onward : Leads tree links place.dropLast rest target) :
      Leads tree links place (".." :: rest) target
  | enter {links : Nat} {place target : Place} {name : String}
      {rest : List String} {entry : Entry}
      (directory : tree.get? place = some .directory) (proper : Proper name)
      (found : tree.get? (place ++ [name]) = some entry)
      (notLink : ∀ path, entry ≠ .link path)
      (onward : Leads tree links (place ++ [name]) rest target) :
      Leads tree links place (name :: rest) target
  | follow {links : Nat} {place target : Place} {name path : String}
      {rest : List String}
      (directory : tree.get? place = some .directory) (proper : Proper name)
      (found : tree.get? (place ++ [name]) = some (.link path))
      (onward : Leads tree links (start place path)
        (FilePath.names path ++ rest) target) :
      Leads tree (links + 1) place (name :: rest) target

theorem walk_stay (directory : tree.get? place = some .directory) :
    tree.walk links place ("." :: names) = tree.walk links place names := by
  simp [walk_cons, directory]

theorem walk_up (directory : tree.get? place = some .directory) :
    tree.walk links place (".." :: names) =
      tree.walk links place.dropLast names := by
  simp [walk_cons, directory]

theorem walk_cons_of_proper {name : String}
    (directory : tree.get? place = some .directory) (proper : Proper name) :
    tree.walk links place (name :: names) =
      match tree.get? (place ++ [name]), links with
      | none, _ => .error .missing
      | some (.link _), 0 => .error .tooManyLinks
      | some (.link path), links + 1 =>
        tree.walk links (start place path) (FilePath.names path ++ names)
      | some _, links => tree.walk links (place ++ [name]) names := by
  rw [walk_cons, if_neg (not_not_intro directory), if_neg proper.1,
    if_neg proper.2.1, if_neg (Nat.not_lt.mpr proper.2.2)]

theorem walk_enter {name : String} {entry : Entry}
    (directory : tree.get? place = some .directory) (proper : Proper name)
    (found : tree.get? (place ++ [name]) = some entry)
    (notLink : ∀ path, entry ≠ .link path) :
    tree.walk links place (name :: names) =
      tree.walk links (place ++ [name]) names := by
  rw [walk_cons_of_proper directory proper, found]
  cases entry with
  | link path => exact absurd rfl (notLink path)
  | _ => rfl

theorem walk_follow {name path : String}
    (directory : tree.get? place = some .directory) (proper : Proper name)
    (found : tree.get? (place ++ [name]) = some (.link path)) :
    tree.walk (links + 1) place (name :: names) =
      tree.walk links (start place path) (FilePath.names path ++ names) := by
  rw [walk_cons_of_proper directory proper, found]

/-- A walk that goes on from where another one ends. -/
theorem Leads.walk_append (leads : tree.Leads links place names target) :
    ∃ left ≤ links, ∀ rest,
      tree.walk links place (names ++ rest) = tree.walk left target rest := by
  induction leads with
  | here links place => exact ⟨links, Nat.le_refl _, fun _ => rfl⟩
  | stay directory _ induction =>
      obtain ⟨left, least, same⟩ := induction
      refine ⟨left, least, fun rest => ?_⟩
      rw [List.cons_append, walk_stay directory, same]
  | up directory _ induction =>
      obtain ⟨left, least, same⟩ := induction
      refine ⟨left, least, fun rest => ?_⟩
      rw [List.cons_append, walk_up directory, same]
  | enter directory proper found notLink _ induction =>
      obtain ⟨left, least, same⟩ := induction
      refine ⟨left, least, fun rest => ?_⟩
      rw [List.cons_append, walk_enter directory proper found notLink, same]
  | follow directory proper found _ induction =>
      obtain ⟨left, least, same⟩ := induction
      refine ⟨left, Nat.le_succ_of_le least, fun rest => ?_⟩
      rw [List.cons_append, walk_follow directory proper found,
        ← List.append_assoc, same]

theorem Leads.walk_eq (leads : tree.Leads links place names target) :
    tree.walk links place names = .ok target := by
  obtain ⟨left, _, same⟩ := leads.walk_append
  rw [← List.append_nil names, same, walk_nil]

/-- A walk goes on with fewer names, or with fewer links to follow. -/
theorem walk_induction {motive : Nat → Place → List String → Prop}
    (done : ∀ links place, motive links place [])
    (step : ∀ links place name rest, (∀ next, motive links next rest) →
      (∀ fewer next names, fewer < links → motive fewer next names) →
      motive links place (name :: rest))
    (links : Nat) (place : Place) (names : List String) :
    motive links place names := by
  induction links using Nat.strongRecOn generalizing place names with
  | _ links fewer =>
      induction names generalizing place with
      | nil => exact done links place
      | cons name rest induction =>
          apply step links place name rest induction
          intro count next names less
          exact fewer count less next names

theorem leads_of_walk (walks : tree.walk links place names = .ok target) :
    tree.Leads links place names target := by
  induction links, place, names using walk_induction with
  | done links place =>
      rw [walk_nil] at walks
      cases walks
      exact .here links _
  | step links place name rest induction follows =>
      by_cases directory : tree.get? place = some .directory
      · by_cases dot : name = "."
        · subst dot
          rw [walk_stay directory] at walks
          exact .stay directory (induction _ walks)
        by_cases dots : name = ".."
        · subst dots
          rw [walk_up directory] at walks
          exact .up directory (induction _ walks)
        by_cases long : longestName < name.utf8ByteSize
        · simp [walk_cons, directory, dot, dots, long] at walks
        have proper : Proper name := ⟨dot, dots, Nat.le_of_not_lt long⟩
        cases found : tree.get? (place ++ [name]) with
        | none => simp [walk_cons, directory, dot, dots, long, found] at walks
        | some entry =>
            by_cases link : ∃ path, entry = .link path
            · obtain ⟨path, rfl⟩ := link
              cases links with
              | zero =>
                  simp [walk_cons, directory, dot, dots, long, found] at walks
              | succ fewer =>
                  rw [walk_follow directory proper found] at walks
                  exact .follow directory proper found
                    (follows _ _ _ (Nat.lt_succ_self fewer) walks)
            · have notLink := not_exists.mp link
              rw [walk_enter directory proper found notLink] at walks
              exact .enter directory proper found notLink (induction _ walks)
      · simp [walk_cons, directory] at walks

theorem walk_eq_ok_iff :
    tree.walk links place names = .ok target ↔
      tree.Leads links place names target :=
  ⟨leads_of_walk, Leads.walk_eq⟩

theorem Leads.unique {other : Place}
    (leads : tree.Leads links place names target)
    (also : tree.Leads links place names other) : target = other :=
  Except.ok.inj (leads.walk_eq.symm.trans also.walk_eq)

theorem Leads.within {name : String}
    (leads : tree.Leads links place (name :: names) target) :
    tree.get? place = some .directory := by
  cases leads <;> assumption

/-- More links can be followed than are met. -/
theorem Leads.mono {more : Nat} (leads : tree.Leads links place names target)
    (le : links ≤ more) : tree.Leads more place names target := by
  induction leads generalizing more with
  | here => exact .here more _
  | stay directory _ induction => exact .stay directory (induction le)
  | up directory _ induction => exact .up directory (induction le)
  | enter directory proper found notLink _ induction =>
      exact .enter directory proper found notLink (induction le)
  | follow directory proper found _ induction =>
      cases more with
      | zero => omega
      | succ more => exact .follow directory proper found (induction (by omega))

theorem Leads.of_append {rest : List String}
    (leads : tree.Leads links place (names ++ rest) target) :
    ∃ middle, tree.Leads links place names middle ∧
      tree.Leads links middle rest target := by
  induction links, place, names using walk_induction with
  | done links place => exact ⟨place, .here links place, leads⟩
  | step links place name names induction follows =>
      cases leads with
      | stay directory onward =>
          obtain ⟨middle, leads, further⟩ := induction _ onward
          exact ⟨middle, .stay directory leads, further⟩
      | up directory onward =>
          obtain ⟨middle, leads, further⟩ := induction _ onward
          exact ⟨middle, .up directory leads, further⟩
      | enter directory proper found notLink onward =>
          obtain ⟨middle, leads, further⟩ := induction _ onward
          exact ⟨middle, .enter directory proper found notLink leads, further⟩
      | @follow fewer _ _ _ path _ directory proper found onward =>
          have regrouped : tree.Leads fewer (start place path)
              (FilePath.names path ++ names ++ rest) target := by
            rw [List.append_assoc]
            exact onward
          obtain ⟨middle, leads, further⟩ :=
            follows fewer _ _ (Nat.lt_succ_self fewer) regrouped
          exact ⟨middle, .follow directory proper found leads,
            further.mono (Nat.le_succ fewer)⟩

/-! Entries that go take walks with them, and open no new ones. -/

/-- The same tree with some entries gone. -/
def Prunes (after before : FileTree) : Prop :=
  ∀ place, after.get? place = before.get? place ∨ after.get? place = none

namespace Prunes

variable {before middle after : FileTree}

theorem refl (tree : FileTree) : tree.Prunes tree :=
  fun _ => .inl rfl

theorem trans (later : after.Prunes middle) (earlier : middle.Prunes before) :
    after.Prunes before := by
  intro place
  rcases later place with same | gone
  · rw [same]
    exact earlier place
  · exact .inr gone

theorem found {entry : Entry} (prunes : after.Prunes before)
    (found : after.get? place = some entry) :
    before.get? place = some entry := by
  rcases prunes place with same | gone
  · rw [← same, found]
  · rw [gone] at found
    cases found

theorem remove (below : place ≠ []) : (tree.remove place).Prunes tree := by
  intro other
  rw [get?_remove below]
  by_cases same : other = place
  · exact .inr (if_pos same)
  · exact .inl (if_neg same)

end Prunes

theorem eq_of_get?_remove_ne {other : Place} (below : place ≠ [])
    (changed : (tree.remove place).get? other ≠ tree.get? other) :
    other = place := by
  rw [get?_remove below] at changed
  split at changed
  · assumption
  · exact absurd rfl changed

theorem Leads.of_prunes {before after : FileTree}
    (prunes : after.Prunes before)
    (leads : after.Leads links place names target) :
    before.Leads links place names target := by
  induction leads with
  | here links place => exact .here links place
  | stay directory _ induction => exact .stay (prunes.found directory) induction
  | up directory _ induction => exact .up (prunes.found directory) induction
  | enter directory proper found notLink _ induction =>
      exact .enter (prunes.found directory) proper (prunes.found found) notLink
        induction
  | follow directory proper found _ induction =>
      exact .follow (prunes.found directory) proper (prunes.found found)
        induction

/-! Below a directory without links, names lead down. -/

/-- No symbolic link stands at or below the place. -/
def LinkFree (tree : FileTree) (root : Place) : Prop :=
  ∀ place path, root <+: place → tree.get? place ≠ some (.link path)

theorem linkFree_of_entries (root : Place)
    (entries : ∀ entry ∈ tree.entries, ∀ path, entry.2 ≠ .link path) :
    tree.LinkFree root := by
  intro place path _ found
  unfold get? at found
  split at found
  · cases found
  · obtain ⟨before, later, same, _⟩ := List.lookup_eq_some_iff.mp found
    exact entries (place, .link path) (by simp [same]) path rfl

/-- No symbolic link stands below the place, which may be one itself. -/
def LinkFreeBelow (tree : FileTree) (root : Place) : Prop :=
  ∀ place path, root <+: place → place ≠ root →
    tree.get? place ≠ some (.link path)

theorem LinkFree.linkFreeBelow {root : Place} (free : tree.LinkFree root) :
    tree.LinkFreeBelow root :=
  fun place path below _ => free place path below

namespace LinkFreeBelow

variable {root : Place} (free : tree.LinkFreeBelow root)
include free

theorem of_prunes {after : FileTree} (prunes : after.Prunes tree) :
    after.LinkFreeBelow root :=
  fun place path below deeper found =>
    free place path below deeper (prunes.found found)

theorem not_link (below : root <+: place) (name path : String) :
    tree.get? (place ++ [name]) ≠ some (.link path) := by
  refine free _ path (below.trans (List.prefix_append _ _)) fun same => ?_
  have deeper := below.length_le
  rw [← same, List.length_append] at deeper
  exact absurd deeper (by simp)

/-- Names that never go up lead to where they say. -/
theorem eq_of_leads (below : root <+: place) (level : ".." ∉ names)
    (leads : tree.Leads links place names target) :
    target = place ++ names.filter (· ≠ ".") := by
  induction leads with
  | here links place => simp
  | stay _ _ induction =>
      rw [List.filter_cons_of_neg (by simp)]
      exact induction below (mt (List.mem_cons_of_mem _) level)
  | up => exact absurd List.mem_cons_self level
  | enter _ proper _ _ _ induction =>
      rw [List.filter_cons_of_pos (by simpa using proper.1), List.append_cons]
      exact induction (below.trans (List.prefix_append _ _))
        (mt (List.mem_cons_of_mem _) level)
  | follow _ _ found => exact absurd found (free.not_link below _ _)

end LinkFreeBelow

/-- Names that lead down or nowhere else. -/
def Descending (names : List String) : Prop :=
  ∀ name ∈ names, name = "." ∨ Proper name

theorem Descending.tail {name : String}
    (descending : Descending (name :: names)) : Descending names :=
  fun other member => descending other (List.mem_cons_of_mem name member)

theorem Descending.left {more : List String}
    (descending : Descending (names ++ more)) : Descending names :=
  fun other member => descending other (List.mem_append_left more member)

theorem Descending.level (descending : Descending names) : ".." ∉ names := by
  intro member
  rcases descending ".." member with impossible | proper
  · exact absurd impossible (by decide)
  · exact proper.2.1 rfl

/-- On the way down along the names, the first that is no directory is not
there at all. -/
inductive BreaksOff (tree : FileTree) : Place → List String → Prop
  | missing {place : Place} {name : String} (rest : List String)
      (absent : tree.get? (place ++ [name]) = none) :
      BreaksOff tree place (name :: rest)
  | further {place : Place} {name : String} {rest : List String}
      (directory : tree.get? (place ++ [name]) = some .directory)
      (breaks : BreaksOff tree (place ++ [name]) rest) :
      BreaksOff tree place (name :: rest)

section Descent

variable {root : Place} (free : tree.LinkFree root)
include free

/-- A step of a walk below a directory without links. -/
theorem LinkFree.walk_cons {name : String} (below : root <+: place)
    (directory : tree.get? place = some .directory) (proper : Proper name)
    (rest : List String) :
    tree.walk links place (name :: rest) =
      if tree.get? (place ++ [name]) = none then .error .missing
      else tree.walk links (place ++ [name]) rest := by
  cases found : tree.get? (place ++ [name]) with
  | none =>
      rw [walk_cons_of_proper directory proper, found]
      rfl
  | some entry =>
      rw [if_neg (by simp)]
      apply walk_enter directory proper found
      rintro path rfl
      exact free _ path (below.trans (List.prefix_append _ _)) found

theorem LinkFree.walk_append {more : List String} (below : root <+: place)
    (descending : Descending names) :
    tree.walk links place (names ++ more) =
      (tree.walk links place names).bind fun middle =>
        tree.walk links middle more := by
  induction names generalizing place with
  | nil => rw [walk_nil]; rfl
  | cons name rest induction =>
      by_cases directory : tree.get? place = some .directory
      · rcases descending name List.mem_cons_self with rfl | proper
        · rw [List.cons_append, walk_stay directory, walk_stay directory]
          exact induction below descending.tail
        · rw [List.cons_append, free.walk_cons below directory proper,
            free.walk_cons below directory proper]
          split
          · rfl
          · exact induction (below.trans (List.prefix_append _ _)) descending.tail
      · rw [List.cons_append, FileTree.walk_cons, FileTree.walk_cons,
          if_pos directory, if_pos directory]
        rfl

theorem LinkFree.walk_missing_iff (below : root <+: place)
    (directory : tree.get? place = some .directory)
    (descending : Descending names) :
    tree.walk links place names = .error .missing ↔
      tree.BreaksOff place (names.filter (· ≠ ".")) := by
  induction names generalizing place with
  | nil =>
      rw [walk_nil, List.filter_nil]
      constructor
      · rintro ⟨⟩
      · rintro ⟨⟩
  | cons name rest induction =>
      rcases descending name List.mem_cons_self with rfl | proper
      · rw [walk_stay directory, List.filter_cons_of_neg (by simp)]
        exact induction below directory descending.tail
      · rw [free.walk_cons below directory proper,
          List.filter_cons_of_pos (by simpa using proper.1)]
        split
        · rename_i absent
          exact ⟨fun _ => .missing _ absent, fun _ => rfl⟩
        · rename_i present
          by_cases deeper : tree.get? (place ++ [name]) = some .directory
          · rw [induction (below.trans (List.prefix_append _ _)) deeper
              descending.tail]
            constructor
            · exact .further deeper
            · rintro (⟨_, absent⟩ | ⟨_, breaks⟩)
              · exact absurd absent present
              · exact breaks
          · constructor
            · intro missing
              cases rest with
              | nil => cases (walk_nil tree _ _).symm.trans missing
              | cons next rest =>
                  rw [FileTree.walk_cons, if_pos deeper] at missing
                  cases missing
            · rintro (⟨_, absent⟩ | ⟨directory, _⟩)
              · exact absurd absent present
              · exact absurd directory deeper

/-- Walks down end below the place where they begin. -/
theorem LinkFree.below_of_leads (below : root <+: place)
    (descending : Descending names)
    (leads : tree.Leads links place names target) : place <+: target := by
  rw [free.linkFreeBelow.eq_of_leads below descending.level leads]
  exact List.prefix_append _ _

end Descent

end FileCleanup.FileTree
