import FileCleanup.Proofs.Storage.Absence
import FileCleanup.Storage.S3Client

namespace FileCleanup

open FilePath Text

/-! Buckets below a root directory without links are apart from each other, and
every store turns the same addresses away. -/

namespace Address

variable {bucket key : String}

/-- An address that no store takes, for its key or for its bucket. -/
def Rejected (bucket key : String) : Prop :=
  (key = "" ∨ key.toList.head? = some '/' ∨ ".." ∈ split '/' key) ∨
    bucket = "" ∨ '/' ∈ bucket.toList ∨ bucket = "." ∨ bucket = ".."

theorem not_rejected_iff :
    ¬Rejected bucket key ↔ ValidBucket bucket ∧ ValidKey key := by
  unfold Rejected ValidBucket ValidKey
  simp only [not_or, and_comm]

theorem rejected_cases (rejected : Rejected bucket key) :
    (∃ fault, checkBucket bucket = .error fault) ∨
      ∃ fault, checkKey key = .error fault := by
  -- Stores check one before the other, in either order.
  cases checked : checkBucket bucket with
  | error fault => exact .inl ⟨fault, rfl⟩
  | ok =>
      cases alsoChecked : checkKey key with
      | error fault => exact .inr ⟨fault, rfl⟩
      | ok =>
          refine absurd rejected (not_rejected_iff.mpr ⟨?_, ?_⟩)
          · exact checkBucket_eq_ok_iff.mp checked
          · exact checkKey_eq_ok_iff.mp alsoChecked

end Address

namespace LocalStorage

variable {storage : LocalStorage} {bucket key : String}

/-- Where the path of the root directory leads. -/
def RootedAt (storage : LocalStorage) (root : Place) : Prop :=
  storage.tree.Leads mostLinks (start storage.here storage.root)
    (names storage.root) root

/-- No symbolic link stands below the root directory, if there is one. -/
def LinkFreeInside (storage : LocalStorage) : Prop :=
  ∀ root, storage.RootedAt root → storage.tree.LinkFreeBelow root

theorem checkAddress_of_rejected (rejected : Address.Rejected bucket key) :
    ∃ reason,
      storage.checkAddress bucket key = .error (.invalidKey reason) := by
  unfold checkAddress
  cases checked : Address.checkBucket bucket with
  | error fault => exact ⟨fault.reason, rfl⟩
  | ok =>
      obtain ⟨_, impossible⟩ | ⟨fault, fails⟩ :=
        Address.rejected_cases rejected
      · cases checked.symm.trans impossible
      · rw [fails]
        exact ⟨fault.reason, rfl⟩

theorem delete_of_rejected (rejected : Address.Rejected bucket key) :
    ∃ reason, storage.delete bucket key =
      (.error (.invalidKey reason), [], storage) := by
  obtain ⟨reason, fails⟩ := storage.checkAddress_of_rejected rejected
  exact ⟨reason, by rw [delete, fails]⟩

/-- A valid address is only turned away if its path leads out of the root
directory. -/
theorem escapes_of_invalidKey {reason : String}
    (bucketValid : Address.ValidBucket bucket) (keyValid : Address.ValidKey key)
    (fails : (storage.delete bucket key).1 = .error (.invalidKey reason)) :
    ∃ place root, storage.tree.canonical storage.here
        (storage.objectPath bucket key) = .ok place ∧
      storage.tree.canonical storage.here storage.root = .ok root ∧
      ¬root <+: place := by
  cases checked : storage.checkAddress bucket key with
  | ok =>
      rw [delete_of_checked checked] at fails
      cases removed : storage.tree.unlink storage.here
          (storage.objectPath bucket key) with
      | ok tree =>
          rw [removed] at fails
          cases fails
      | error fault =>
          rw [removed] at fails
          cases fault <;> cases fails
  | error problem =>
      rw [delete, checked] at fails
      cases fails
      unfold checkAddress at checked
      rw [Address.checkBucket_eq_ok_iff.mpr bucketValid,
        Address.checkKey_eq_ok_iff.mpr keyValid] at checked
      cases leads : storage.tree.canonical storage.here
          (storage.objectPath bucket key) with
      | error fault =>
          rw [leads] at checked
          cases checked
      | ok place =>
      cases resolves : storage.tree.canonical storage.here storage.root with
      | error fault =>
          rw [leads, resolves] at checked
          cases checked
      | ok root =>
          refine ⟨place, root, rfl, rfl, fun within => ?_⟩
          rw [leads, resolves] at checked
          simp only [bind, Except.bind, Except.mapError,
            List.isPrefixOf_iff_prefix.mpr within] at checked
          cases checked

section Bucket

variable (free : storage.LinkFreeInside)
include free

theorem LinkFreeInside.eq_of_leads {rest : List String} {place : Place}
    (bucketValid : Address.ValidBucket bucket) (level : ".." ∉ rest)
    (leads : storage.tree.Leads mostLinks
      (start storage.here (storage.objectPath bucket key))
      (names storage.root ++ bucket :: rest) place) :
    ∃ root, storage.RootedAt root ∧
      place = root ++ bucket :: rest.filter (· ≠ ".") := by
  rw [start_objectPath_of_valid bucketValid] at leads
  obtain ⟨root, rooted, onward⟩ := leads.of_append
  refine ⟨root, rooted, ?_⟩
  obtain ⟨_, _, dot, dots⟩ := bucketValid
  have straight : ".." ∉ bucket :: rest :=
    List.not_mem_cons_of_ne_of_not_mem dots.symm level
  rw [(free root rooted).eq_of_leads (List.prefix_refl _) straight onward,
    List.filter_cons_of_pos (by simpa using dot)]

theorem delete_invalidKey_iff :
    (∃ reason, (storage.delete bucket key).1 = .error (.invalidKey reason)) ↔
      Address.Rejected bucket key := by
  constructor
  · rintro ⟨reason, fails⟩
    by_contra accepted
    obtain ⟨bucketValid, keyValid⟩ := Address.not_rejected_iff.mp accepted
    obtain ⟨place, other, resolves, resolvesRoot, escapes⟩ :=
      escapes_of_invalidKey bucketValid keyValid fails
    obtain ⟨_, leads, _⟩ := FileTree.canonical_eq_ok_iff.mp resolves
    rw [names_objectPath bucketValid] at leads
    obtain ⟨root, rooted, rfl⟩ :=
      free.eq_of_leads bucketValid keyValid.level leads
    obtain ⟨_, leadsRoot, _⟩ := FileTree.canonical_eq_ok_iff.mp resolvesRoot
    cases leadsRoot.unique rooted
    exact escapes (List.prefix_append _ _)
  · intro rejected
    obtain ⟨reason, fails⟩ := storage.delete_of_rejected rejected
    exact ⟨reason, by rw [fails]⟩

/-- All that a delete takes is the file of its key in the directory of its
bucket. -/
theorem delete_takes {place : Place}
    (changed : (storage.delete bucket key).2.2.tree.get? place ≠
      storage.tree.get? place) :
    storage.tree.get? place = some .file ∧
      (storage.delete bucket key).2.2.tree.get? place = none ∧
      ∃ root, storage.RootedAt root ∧
        (names key).filter (· ≠ ".") ≠ [] ∧
        place = root ++ bucket :: (names key).filter (· ≠ ".") := by
  rcases storage.delete_changes bucket key with
    same | ⟨checked, tree, removed, same⟩
  · rw [same] at changed
    exact absurd rfl changed
  rw [same] at changed ⊢
  obtain ⟨bucketValid, keyValid, _⟩ := checkAddress_eq_ok_iff.mp checked
  obtain ⟨front, above, name, entry, reaches, removable, rfl⟩ :=
    FileTree.unlink_eq_ok_iff.mp removed
  have below : above ++ [name] ≠ [] := by simp
  cases FileTree.eq_of_get?_remove_ne below changed
  obtain ⟨rest, rfl, ends⟩ :=
    front_objectPath bucketValid keyValid reaches.splits
  have level : ".." ∉ rest ++ [name] := ends ▸ keyValid.level
  obtain ⟨root, rooted, rfl⟩ := free.eq_of_leads bucketValid
    (mt (List.mem_append_left _) level) reaches.leads
  -- What is removed need not be what its path leads to: a link is not followed.
  have notLink : ∀ target, entry ≠ .link target := by
    rintro target rfl
    exact (free root rooted).not_link (List.prefix_append _ _) name target
      removable.found
  have kept : (names key).filter (· ≠ ".") =
      rest.filter (· ≠ ".") ++ [name] := by
    rw [ends, List.filter_append,
      List.filter_cons_of_pos (by simpa using removable.proper.1)]
    rfl
  refine ⟨?_, ?_, root, rooted, ?_, ?_⟩
  · cases entry with
    | file => exact removable.found
    | directory => exact absurd rfl removable.notDirectory
    | link target => exact absurd rfl (notLink target)
  · rw [FileTree.get?_remove below, if_pos rfl]
  · rw [kept]
    simp
  · rw [kept]
    simp

end Bucket

section Run

variable {root : Place} (storage) (deletes : List (String × String))

theorem RootedAt.of_deleteAll
    (rooted : (storage.deleteAll deletes).RootedAt root) :
    storage.RootedAt root := by
  obtain ⟨here, path⟩ := storage.deleteAll_keeps deletes
  unfold RootedAt at rooted
  rw [here, path] at rooted
  exact rooted.of_prunes (storage.deleteAll_prunes deletes)

variable {storage} (free : storage.LinkFreeInside)
include free

theorem LinkFreeInside.deleteAll :
    (storage.deleteAll deletes).LinkFreeInside := by
  intro root rooted
  have outer := free root (rooted.of_deleteAll storage deletes)
  exact outer.of_prunes (storage.deleteAll_prunes deletes)

theorem deleteAll_beside (rooted : storage.RootedAt root) {place : Place}
    (outside : ¬root <+: place) :
    (storage.deleteAll deletes).tree.get? place = storage.tree.get? place := by
  induction deletes using List.reverseRecOn with
  | nil => rfl
  | append_singleton deletes call induction =>
      obtain ⟨bucket, key⟩ := call
      rw [deleteAll_concat, ← induction]
      by_contra changed
      obtain ⟨_, _, other, otherRooted, _, rfl⟩ :=
        delete_takes (free.deleteAll deletes) changed
      have same := (otherRooted.of_deleteAll storage deletes).unique rooted
      apply outside
      rw [← same]
      exact List.prefix_append _ _

end Run

end LocalStorage

namespace Buckets

variable {buckets : Buckets} {bucket key : String}

theorem checkAddress_of_rejected (rejected : Address.Rejected bucket key) :
    ∃ reason, checkAddress bucket key = .error (.invalidKey reason) := by
  unfold checkAddress
  cases checked : Address.checkKey key with
  | error fault => exact ⟨fault.reason, rfl⟩
  | ok =>
      obtain ⟨fault, fails⟩ | ⟨_, impossible⟩ :=
        Address.rejected_cases rejected
      · rw [fails]
        exact ⟨fault.reason, rfl⟩
      · cases checked.symm.trans impossible

theorem delete_of_rejected (rejected : Address.Rejected bucket key) :
    ∃ reason, buckets.delete bucket key =
      (.error (.invalidKey reason), [], buckets) := by
  obtain ⟨reason, fails⟩ := checkAddress_of_rejected rejected
  exact ⟨reason, by rw [delete, fails]⟩

theorem delete_invalidKey_iff :
    (∃ reason, (buckets.delete bucket key).1 = .error (.invalidKey reason)) ↔
      Address.Rejected bucket key := by
  constructor
  · rintro ⟨reason, fails⟩
    by_contra accepted
    have checked := checkAddress_eq_ok_iff.mpr
      (Address.not_rejected_iff.mp accepted)
    unfold delete at fails
    rw [checked] at fails
    dsimp only at fails
    cases refused : buckets.refusals bucket (.ofKey key) with
    | none =>
        rw [refused] at fails
        cases fails
    | some refusal =>
        obtain ⟨kind, message⟩ := refusal
        rw [refused] at fails
        cases kind <;> cases fails
  · intro rejected
    obtain ⟨reason, fails⟩ := buckets.delete_of_rejected rejected
    exact ⟨reason, by rw [fails]⟩

end Buckets

theorem S3Client.delete_invalidKey_iff {client : S3Client}
    {elapsed bucket key : String} :
    (∃ reason, (client.delete elapsed bucket key).1 =
        .error (.invalidKey reason)) ↔
      Address.Rejected bucket key := by
  constructor
  · rintro ⟨reason, fails⟩
    by_contra accepted
    have checked := Buckets.checkAddress_eq_ok_iff.mpr
      (Address.not_rejected_iff.mp accepted)
    rw [delete, checked] at fails
    cases fails
  · intro rejected
    obtain ⟨reason, fails⟩ := Buckets.checkAddress_of_rejected rejected
    exact ⟨reason, by rw [delete, fails]⟩

/-- Below a root directory without links, whatever has been deleted before, a
delete takes at most the file of its key in the directory of its bucket, and
outside the root directory all is as it was.  Every store turns the same
addresses away, and then changes nothing. -/
theorem buckets_isolated {storage : LocalStorage}
    (free : storage.LinkFreeInside) (earlier : List (String × String))
    (bucket key : String) :
    let before := storage.deleteAll earlier
    let after := (before.delete bucket key).2.2
    (∀ place, after.tree.get? place ≠ before.tree.get? place →
      before.tree.get? place = some .file ∧ after.tree.get? place = none ∧
      ∃ root, storage.RootedAt root ∧ (names key).filter (· ≠ ".") ≠ [] ∧
        place = root ++ bucket :: (names key).filter (· ≠ ".")) ∧
    (∀ root, storage.RootedAt root → ∀ place, ¬root <+: place →
      after.tree.get? place = storage.tree.get? place) ∧
    ((∃ reason, (before.delete bucket key).1 = .error (.invalidKey reason)) ↔
      Address.Rejected bucket key) ∧
    (∀ buckets : Buckets,
      (∃ reason, (buckets.delete bucket key).1 =
          .error (.invalidKey reason)) ↔
        Address.Rejected bucket key) ∧
    (∀ (client : S3Client) (elapsed : String),
      (∃ reason, (client.delete elapsed bucket key).1 =
          .error (.invalidKey reason)) ↔
        Address.Rejected bucket key) ∧
    (Address.Rejected bucket key → after = before ∧
      ∀ buckets : Buckets, (buckets.delete bucket key).2.2 = buckets) := by
  intro before after
  have freeBefore := free.deleteAll earlier
  refine ⟨?takes, ?beside, LocalStorage.delete_invalidKey_iff freeBefore,
    fun _ => Buckets.delete_invalidKey_iff,
    fun _ _ => S3Client.delete_invalidKey_iff, ?unchanged⟩
  case takes =>
    intro place changed
    obtain ⟨file, gone, root, rooted, below⟩ :=
      LocalStorage.delete_takes freeBefore changed
    exact ⟨file, gone, root, rooted.of_deleteAll storage earlier, below⟩
  case beside =>
    intro root rooted place outside
    have beside := LocalStorage.deleteAll_beside (earlier ++ [(bucket, key)])
      free rooted outside
    rwa [LocalStorage.deleteAll_concat] at beside
  case unchanged =>
    intro rejected
    obtain ⟨_, refuses⟩ := before.delete_of_rejected rejected
    refine ⟨congrArg (·.2.2) refuses, fun buckets => ?_⟩
    obtain ⟨_, fails⟩ := buckets.delete_of_rejected rejected
    rw [fails]

/-- Two buckets with a file of one name. -/
def LocalStorage.Sample.namesakes : LocalStorage where
  tree := ⟨[(["root"], .directory), (["root", "uploads"], .directory),
    (["root", "uploads", "a"], .file), (["root", "archive"], .directory),
    (["root", "archive", "a"], .file)]⟩
  here := []
  root := "/root"

theorem buckets_isolated_sample :
    let storage := LocalStorage.Sample.namesakes
    let after := storage.deleteAll [("archive", "a")]
    storage.tree.get? ["root", "archive", "a"] = some .file ∧
      after.tree.get? ["root", "archive", "a"] = none ∧
      after.tree.get? ["root", "uploads", "a"] = some .file ∧
      (after.delete "uploads" "b/../../archive").2.2 = after := by
  intro storage after
  have free : storage.LinkFreeInside := by
    intro root _
    apply FileTree.LinkFree.linkFreeBelow
    apply FileTree.linkFree_of_entries
    intro entry member path
    simp only [storage, LocalStorage.Sample.namesakes, List.mem_cons,
      List.not_mem_nil, or_false] at member
    rcases member with rfl | rfl | rfl | rfl | rfl <;> simp
  obtain ⟨takes, _⟩ := buckets_isolated free [] "archive" "a"
  obtain ⟨_, _, _, _, _, unchanged⟩ :=
    buckets_isolated free [("archive", "a")] "uploads" "b/../../archive"
  refine ⟨rfl, by decide +kernel, ?_, (unchanged ?_).1⟩
  · by_contra changed
    obtain ⟨_, _, root, _, _, same⟩ := takes ["root", "uploads", "a"] changed
    have inside : "archive" ∈ ["root", "uploads", "a"] := by
      rw [same]
      exact List.mem_append_right root List.mem_cons_self
    exact absurd inside (by decide)
  · exact .inl (.inr (.inr (by decide)))

end FileCleanup
