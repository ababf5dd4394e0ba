import FileCleanup.Proofs.FileTree.Removal
import FileCleanup.Storage.Local
import Mathlib.Data.List.Induction

namespace FileCleanup

open FilePath

/-! Where an object lies below the root directory, and what a delete does to
the tree. -/

namespace Address

theorem ValidBucket.names_eq {bucket : String} (valid : ValidBucket bucket) :
    names bucket = [bucket] :=
  names_of_not_mem valid.2.1 valid.1

theorem ValidKey.names_ne_nil {key : String} (valid : ValidKey key) :
    names key ≠ [] :=
  FilePath.names_ne_nil valid.1 valid.2.1

theorem ValidKey.level {key : String} (valid : ValidKey key) :
    ".." ∉ names key :=
  fun member => valid.2.2 (List.mem_filter.mp member).1

end Address

namespace LocalStorage

variable {storage : LocalStorage} {bucket key : String}

theorem names_objectPath (valid : Address.ValidBucket bucket) :
    names (storage.objectPath bucket key) =
      names storage.root ++ bucket :: names key := by
  rw [objectPath, names_join, names_join, valid.names_eq, List.append_assoc,
    List.singleton_append]

theorem start_objectPath (nonempty : storage.root ≠ "") :
    start storage.here (storage.objectPath bucket key) =
      start storage.here storage.root := by
  unfold start
  rw [objectPath, isAbsolute_join (join_ne_empty nonempty bucket),
    isAbsolute_join nonempty]

theorem start_objectPath_of_valid (valid : Address.ValidBucket bucket) :
    start storage.here (storage.objectPath bucket key) =
      start storage.here storage.root := by
  by_cases empty : storage.root = ""
  · have relative : isAbsolute bucket = false :=
      decide_eq_false fun head => valid.2.1 (List.mem_of_head? head)
    have joined : join "" bucket = bucket := by simp [join]
    rw [start, start, objectPath, empty, joined, isAbsolute_join valid.1,
      relative]
    rfl
  · exact start_objectPath empty

theorem front_objectPath {front : List String} {name : String}
    (bucketValid : Address.ValidBucket bucket) (keyValid : Address.ValidKey key)
    (splits : names (storage.objectPath bucket key) = front ++ [name]) :
    ∃ rest, front = names storage.root ++ bucket :: rest ∧
      names key = rest ++ [name] := by
  obtain ⟨inner, last, ends⟩ :=
    (List.eq_nil_or_concat (names key)).resolve_left keyValid.names_ne_nil
  rw [names_objectPath bucketValid, ends, List.concat_eq_append,
    ← List.cons_append, ← List.append_assoc] at splits
  obtain ⟨same, lasts⟩ := List.append_inj' splits rfl
  exact ⟨inner, same.symm, by rw [ends, List.concat_eq_append, lasts]⟩

theorem checkAddress_eq_ok_iff :
    storage.checkAddress bucket key = .ok () ↔
      Address.ValidBucket bucket ∧ Address.ValidKey key ∧
        ∀ place, storage.tree.canonical storage.here
            (storage.objectPath bucket key) = .ok place →
          ∃ root, storage.tree.canonical storage.here storage.root = .ok root ∧
            root <+: place := by
  rw [← Address.checkBucket_eq_ok_iff, ← Address.checkKey_eq_ok_iff]
  unfold checkAddress
  cases Address.checkBucket bucket with
  | error fault =>
      constructor
      · rintro ⟨⟩
      · rintro ⟨⟨⟩, _⟩
  | ok =>
  cases Address.checkKey key with
  | error fault =>
      constructor
      · rintro ⟨⟩
      · rintro ⟨_, ⟨⟩, _⟩
  | ok =>
  cases storage.tree.canonical storage.here
      (storage.objectPath bucket key) with
  | error fault => exact ⟨fun _ => ⟨rfl, rfl, by rintro _ ⟨⟩⟩, fun _ => rfl⟩
  | ok place =>
  cases storage.tree.canonical storage.here storage.root with
  | error fault =>
      constructor
      · rintro ⟨⟩
      · rintro ⟨_, _, guarded⟩
        obtain ⟨_, ⟨⟩, _⟩ := guarded place rfl
  | ok root =>
      cases inside : List.isPrefixOf root place with
      | true =>
          have within := List.isPrefixOf_iff_prefix.mp inside
          refine ⟨fun _ => ⟨rfl, rfl, ?_⟩, fun _ => ?_⟩
          · rintro _ ⟨⟩
            exact ⟨root, rfl, within⟩
          · simp only [bind, Except.bind, inside]
            rfl
      | false =>
          constructor
          · intro passes
            simp only [bind, Except.bind, inside] at passes
            cases passes
          · rintro ⟨_, _, guarded⟩
            obtain ⟨_, ⟨⟩, within⟩ := guarded place rfl
            rw [← List.isPrefixOf_iff_prefix, inside] at within
            cases within

theorem delete_of_checked (checked : storage.checkAddress bucket key = .ok ()) :
    storage.delete bucket key =
      match storage.tree.unlink storage.here
          (storage.objectPath bucket key) with
      | .ok tree =>
        (.ok (), [deleted (storage.objectPath bucket key) key],
          { storage with tree })
      | .error .missing =>
        (.ok (), [alreadyAbsent (storage.objectPath bucket key)], storage)
      | .error fault =>
        (.error (.deleteFailed ("Failed to delete file " ++
            storage.objectPath bucket key ++ ": " ++ fault.message)),
          [deleteFailed fault (storage.objectPath bucket key)], storage) := by
  cases unlinked : storage.tree.unlink storage.here
      (storage.objectPath bucket key) with
  | ok tree => simp only [delete, checked, unlinked]
  | error fault => cases fault <;> simp only [delete, checked, unlinked]

theorem delete_of_fault {fault : PathFault}
    (checked : storage.checkAddress bucket key = .ok ())
    (fails : storage.tree.unlink storage.here
      (storage.objectPath bucket key) = .error fault) :
    (storage.delete bucket key).2.2 = storage ∧
      ((storage.delete bucket key).1 = .ok () ↔ fault = .missing) := by
  rw [delete_of_checked checked, fails]
  cases fault <;> simp

/-- A delete changes nothing but the tree, and that only by what can be
removed at the path of an address that passes the check. -/
theorem delete_changes (storage : LocalStorage) (bucket key : String) :
    (storage.delete bucket key).2.2 = storage ∨
      storage.checkAddress bucket key = .ok () ∧
        ∃ tree, storage.tree.unlink storage.here
            (storage.objectPath bucket key) = .ok tree ∧
          (storage.delete bucket key).2.2 = { storage with tree } := by
  cases checked : storage.checkAddress bucket key with
  | error problem =>
      rw [delete, checked]
      exact .inl rfl
  | ok =>
      rw [delete_of_checked checked]
      cases storage.tree.unlink storage.here
          (storage.objectPath bucket key) with
      | ok tree => exact .inr ⟨rfl, tree, rfl, rfl⟩
      | error fault => cases fault <;> exact .inl rfl

theorem delete_keeps (storage : LocalStorage) (bucket key : String) :
    (storage.delete bucket key).2.2.here = storage.here ∧
      (storage.delete bucket key).2.2.root = storage.root := by
  rcases storage.delete_changes bucket key with same | ⟨_, tree, _, same⟩
  · rw [same]
    exact ⟨rfl, rfl⟩
  · rw [same]
    exact ⟨rfl, rfl⟩

theorem delete_prunes (storage : LocalStorage) (bucket key : String) :
    (storage.delete bucket key).2.2.tree.Prunes storage.tree := by
  rcases storage.delete_changes bucket key with same | ⟨_, tree, removed, same⟩
  · rw [same]
    exact .refl _
  · rw [same]
    obtain ⟨_, place, name, _, _, _, rfl⟩ :=
      FileTree.unlink_eq_ok_iff.mp removed
    exact .remove (by simp)

/-- Deletes one after the other, whatever each of them answers. -/
def deleteAll (storage : LocalStorage) (deletes : List (String × String)) :
    LocalStorage :=
  deletes.foldl (fun storage (bucket, key) =>
    (storage.delete bucket key).2.2) storage

theorem deleteAll_concat (storage : LocalStorage)
    (deletes : List (String × String)) (bucket key : String) :
    storage.deleteAll (deletes ++ [(bucket, key)]) =
      ((storage.deleteAll deletes).delete bucket key).2.2 :=
  List.foldl_append

theorem deleteAll_keeps (storage : LocalStorage)
    (deletes : List (String × String)) :
    (storage.deleteAll deletes).here = storage.here ∧
      (storage.deleteAll deletes).root = storage.root := by
  induction deletes using List.reverseRecOn with
  | nil => exact ⟨rfl, rfl⟩
  | append_singleton deletes call induction =>
      obtain ⟨bucket, key⟩ := call
      obtain ⟨here, root⟩ :=
        (storage.deleteAll deletes).delete_keeps bucket key
      rw [deleteAll_concat]
      exact ⟨here.trans induction.1, root.trans induction.2⟩

theorem deleteAll_prunes (storage : LocalStorage)
    (deletes : List (String × String)) :
    (storage.deleteAll deletes).tree.Prunes storage.tree := by
  induction deletes using List.reverseRecOn with
  | nil => exact .refl _
  | append_singleton deletes call induction =>
      obtain ⟨bucket, key⟩ := call
      rw [deleteAll_concat]
      exact (delete_prunes _ bucket key).trans induction

end LocalStorage

end FileCleanup
