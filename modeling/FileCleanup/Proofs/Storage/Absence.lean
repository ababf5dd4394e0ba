import FileCleanup.Proofs.Storage.Local
import FileCleanup.Proofs.Storage.Buckets
import FileCleanup.Storage.Memory

namespace FileCleanup

open FilePath

/-! What becomes of a delete when there is no such object. -/

/-- A bucket and a key whose names a file system takes. -/
structure Address.FileNames (bucket key : String) : Prop where
  bucketValid : ValidBucket bucket
  keyValid : ValidKey key
  noNul : '\x00' ∉ bucket.toList ∧ '\x00' ∉ key.toList
  short : ∀ name ∈ bucket :: names key, name.utf8ByteSize ≤ longestName

namespace Address.FileNames

variable {bucket key : String}

theorem descending (fits : FileNames bucket key) :
    FileTree.Descending (bucket :: names key) := by
  intro name member
  have short := fits.short name member
  rcases List.mem_cons.mp member with rfl | inside
  · obtain ⟨_, _, dot, dots⟩ := fits.bucketValid
    exact .inr ⟨dot, dots, short⟩
  · by_cases dot : name = "."
    · exact .inl dot
    · refine .inr ⟨dot, ?_, short⟩
      rintro rfl
      exact fits.keyValid.level inside

end Address.FileNames

namespace LocalStorage

variable {storage : LocalStorage} {bucket key : String} {root : Place}

/-- A file stands where the path of the object leads. -/
def Holds (storage : LocalStorage) (bucket key : String) : Prop :=
  ∃ place, storage.tree.canonical storage.here
      (storage.objectPath bucket key) = .ok place ∧
    storage.tree.get? place = some .file

theorem checkPath_objectPath
    (legal : FileTree.checkPath storage.root = .ok ())
    (fits : Address.FileNames bucket key) :
    FileTree.checkPath (storage.objectPath bucket key) = .ok () ↔
      (storage.objectPath bucket key).utf8ByteSize ≤ longestPath := by
  obtain ⟨noNul, nonempty, _⟩ := FileTree.checkPath_eq_ok_iff.mp legal
  rw [FileTree.checkPath_eq_ok_iff]
  constructor
  · rintro ⟨_, _, short⟩
    exact short
  · intro short
    refine ⟨fun nul => ?_, join_ne_empty (join_ne_empty nonempty _) _, short⟩
    rcases mem_join nul with inBucket | slash | inKey
    · rcases mem_join inBucket with inRoot | slash | inBucket
      · exact noNul inRoot
      · cases slash
      · exact fits.noNul.1 inBucket
    · cases slash
    · exact fits.noNul.2 inKey

section LinkFree

variable
  (resolves : storage.tree.canonical storage.here storage.root = .ok root)
  (free : storage.tree.LinkFree root)
  (fits : Address.FileNames bucket key)
include resolves free fits

theorem checkAddress_of_linkFree : storage.checkAddress bucket key = .ok () := by
  apply checkAddress_eq_ok_iff.mpr
  refine ⟨fits.bucketValid, fits.keyValid, fun place names => ?_⟩
  obtain ⟨legal, leads, _⟩ := FileTree.canonical_eq_ok_iff.mp resolves
  obtain ⟨_, reaches, _⟩ := FileTree.canonical_eq_ok_iff.mp names
  rw [names_objectPath fits.bucketValid,
    start_objectPath (FileTree.checkPath_eq_ok_iff.mp legal).2.1] at reaches
  obtain ⟨middle, enters, onward⟩ := reaches.of_append
  cases enters.unique leads
  exact ⟨root, resolves,
    free.below_of_leads (List.prefix_refl _) fits.descending onward⟩

/-- Below a root directory without links, deleting an object that is not there
changes nothing, and succeeds exactly if the path of the object breaks off. -/
theorem delete_of_not_holds
    (within : storage.tree.get? root = some .directory)
    (absent : ¬storage.Holds bucket key) :
    (storage.delete bucket key).2.2 = storage ∧
      ((storage.delete bucket key).1 = .ok () ↔
        (storage.objectPath bucket key).utf8ByteSize ≤ longestPath ∧
          storage.tree.BreaksOff root
            ((bucket :: names key).filter (· ≠ "."))) := by
  have checked := checkAddress_of_linkFree resolves free fits
  obtain ⟨legal, leads, _⟩ := FileTree.canonical_eq_ok_iff.mp resolves
  have nonempty := (FileTree.checkPath_eq_ok_iff.mp legal).2.1
  rw [← start_objectPath nonempty] at leads
  cases removes : storage.tree.unlink storage.here
      (storage.objectPath bucket key) with
  | ok tree =>
      exact absurd (free.canonical_of_unlink leads
        (names_objectPath fits.bucketValid) fits.descending (by simp) removes)
        absent
  | error fault =>
      obtain ⟨same, answers⟩ := delete_of_fault checked removes
      refine ⟨same, answers.trans ?_⟩
      rw [← checkPath_objectPath legal fits]
      cases short : FileTree.checkPath (storage.objectPath bucket key) with
      | error other =>
          -- The path can only be too long: it is not empty, like the root's.
          cases removes.symm.trans (FileTree.unlink_of_illegal short)
          constructor
          · rintro rfl
            exact absurd (FileTree.eq_empty_of_checkPath short)
              (join_ne_empty (join_ne_empty nonempty _) _)
          · rintro ⟨⟨⟩, _⟩
      | ok =>
          have missing := free.unlink_eq_missing_iff leads
            (names_objectPath fits.bucketValid) fits.descending within short
            (by simp)
          rw [removes, Except.error.injEq] at missing
          simpa only [true_and] using missing

end LinkFree

end LocalStorage

theorem filter_ne_of_not_mem {Object : Type} [DecidableEq Object]
    {objects : List Object} {object : Object} (absent : object ∉ objects) :
    objects.filter (· ≠ object) = objects := by
  apply List.filter_eq_self.mpr
  intro other member
  refine decide_eq_true ?_
  rintro rfl
  exact absent member

theorem Buckets.delete_of_not_holds {buckets : Buckets} {bucket key : String}
    (accepts : buckets.Accepts bucket key)
    (absent : ¬buckets.Holds bucket (.ofKey key)) :
    buckets.delete bucket key = (.ok (), [deleted bucket key], buckets) := by
  rw [delete_of_accepts accepts, remove, filter_ne_of_not_mem absent]

theorem MemoryStorage.delete_of_not_holds {storage : MemoryStorage}
    {bucket key : String} (spared : key ∉ storage.failingKeys)
    (absent : ¬storage.Holds bucket key) :
    storage.delete bucket key = (.ok (), storage) := by
  rw [delete, if_neg spared, filter_ne_of_not_mem absent]

/-- Deleting an object that is not there leaves every store as it is, and
succeeds: in a bucket and in memory always, and among files when the path of
the object breaks off at a name that is missing. -/
theorem delete_absent {bucket key : String}
    (fits : Address.FileNames bucket key) :
    (∀ (storage : LocalStorage) (root : Place),
      storage.tree.canonical storage.here storage.root = .ok root →
      storage.tree.get? root = some .directory →
      storage.tree.LinkFree root → ¬storage.Holds bucket key →
      (storage.delete bucket key).2.2 = storage ∧
        ((storage.delete bucket key).1 = .ok () ↔
          (storage.objectPath bucket key).utf8ByteSize ≤ longestPath ∧
            storage.tree.BreaksOff root
              ((bucket :: names key).filter (· ≠ ".")))) ∧
    (∀ buckets : Buckets, buckets.refusals bucket (.ofKey key) = none →
      ¬buckets.Holds bucket (.ofKey key) →
      (buckets.delete bucket key).1 = .ok () ∧
        (buckets.delete bucket key).2.2 = buckets) ∧
    (∀ storage : MemoryStorage, key ∉ storage.failingKeys →
      ¬storage.Holds bucket key →
      storage.delete bucket key = (.ok (), storage)) := by
  refine ⟨?files, ?buckets, ?memory⟩
  case files =>
    intro storage root resolves within free absent
    exact LocalStorage.delete_of_not_holds resolves free fits within absent
  case buckets =>
    intro buckets unrefused absent
    rw [Buckets.delete_of_not_holds ⟨fits.bucketValid, fits.keyValid, unrefused⟩
      absent]
    exact ⟨rfl, rfl⟩
  case memory =>
    intro storage spared absent
    exact MemoryStorage.delete_of_not_holds spared absent

/-- One file in a bucket of its own. -/
def LocalStorage.Sample.oneFile : LocalStorage where
  tree := ⟨[(["root"], .directory), (["root", "uploads"], .directory),
    (["root", "uploads", "a"], .file)]⟩
  here := []
  root := "/root"

theorem LocalStorage.Sample.oneFile_linkFree (root : Place) :
    oneFile.tree.LinkFree root := by
  apply FileTree.linkFree_of_entries
  intro entry member path
  simp only [oneFile, List.mem_cons, List.not_mem_nil, or_false] at member
  rcases member with rfl | rfl | rfl <;> simp

theorem delete_absent_sample :
    (LocalStorage.Sample.oneFile.delete "uploads" "gone/b").1 = .ok () := by
  let storage := LocalStorage.Sample.oneFile
  have fits : Address.FileNames "uploads" "gone/b" :=
    ⟨by decide, by decide, by decide, by decide⟩
  have resolves : storage.tree.canonical storage.here storage.root =
      .ok ["root"] := by decide +kernel
  have absent : ¬storage.Holds "uploads" "gone/b" := by
    rintro ⟨place, names, _⟩
    have missing : storage.tree.canonical storage.here
        (storage.objectPath "uploads" "gone/b") = .error .missing := by
      decide +kernel
    cases missing.symm.trans names
  apply ((delete_absent fits).1 storage ["root"] resolves rfl
    (LocalStorage.Sample.oneFile_linkFree _) absent).2.mpr
  exact ⟨by decide +kernel, .further rfl (.missing _ rfl)⟩

/-- A file in the place of a directory stands in the way of the objects that
would be below it: they are absent, and cannot be deleted. -/
theorem absent_below_file_fails :
    let storage := LocalStorage.Sample.oneFile
    Address.FileNames "uploads" "a/b" ∧
      storage.tree.canonical storage.here storage.root = .ok ["root"] ∧
      storage.tree.LinkFree [] ∧ ¬storage.Holds "uploads" "a/b" ∧
      (storage.delete "uploads" "a/b").1 = .error (.deleteFailed
        "Failed to delete file /root/uploads/a/b: Not a directory (os error 20)") := by
  refine ⟨⟨by decide, by decide, by decide, by decide⟩, by decide +kernel,
    LocalStorage.Sample.oneFile_linkFree [], ?_, by decide +kernel⟩
  rintro ⟨place, names, _⟩
  have stops : LocalStorage.Sample.oneFile.tree.canonical []
      (LocalStorage.Sample.oneFile.objectPath "uploads" "a/b") =
        .error .notDirectory := by
    decide +kernel
  cases stops.symm.trans names

end FileCleanup
