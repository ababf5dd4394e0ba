import FileCleanup.Proofs.Storage.Location
import FileCleanup.Storage.Buckets

namespace FileCleanup

open Text

/-! Which objects the deletes in a bucket take away. -/

namespace Buckets

variable {buckets : Buckets} {bucket key : String}

theorem checkAddress_eq_ok_iff :
    checkAddress bucket key = .ok () ↔
      Address.ValidBucket bucket ∧ Address.ValidKey key := by
  rw [← Address.checkBucket_eq_ok_iff, ← Address.checkKey_eq_ok_iff]
  unfold checkAddress
  cases Address.checkKey key with
  | error fault =>
      constructor
      · rintro ⟨⟩
      · rintro ⟨_, ⟨⟩⟩
  | ok =>
  cases Address.checkBucket bucket with
  | error fault =>
      constructor
      · rintro ⟨⟩
      · rintro ⟨⟨⟩, _⟩
  | ok => exact ⟨fun _ => ⟨rfl, rfl⟩, fun _ => rfl⟩

/-- A delete that gets through to the bucket, which does not refuse it. -/
structure Accepts (buckets : Buckets) (bucket key : String) : Prop where
  bucketValid : Address.ValidBucket bucket
  keyValid : Address.ValidKey key
  unrefused : buckets.refusals bucket (.ofKey key) = none

theorem delete_of_accepts (accepts : buckets.Accepts bucket key) :
    buckets.delete bucket key =
      (.ok (), [deleted bucket key], buckets.remove bucket (.ofKey key)) := by
  have checked := checkAddress_eq_ok_iff.mpr
    ⟨accepts.bucketValid, accepts.keyValid⟩
  unfold delete
  rw [checked]
  dsimp only
  rw [accepts.unrefused]

theorem delete_of_not_accepts (rejects : ¬buckets.Accepts bucket key) :
    (buckets.delete bucket key).2.2 = buckets := by
  unfold delete
  cases checked : checkAddress bucket key with
  | error problem => rfl
  | ok =>
      obtain ⟨bucketValid, keyValid⟩ := checkAddress_eq_ok_iff.mp checked
      cases refused : buckets.refusals bucket (.ofKey key) with
      | none => exact absurd ⟨bucketValid, keyValid, refused⟩ rejects
      | some refusal =>
          obtain ⟨kind, reason⟩ := refusal
          dsimp only
          rw [refused]
          cases kind <;> rfl

theorem holds_remove {place : String} {location other : Location} :
    (buckets.remove bucket location).Holds place other ↔
      buckets.Holds place other ∧ ¬(place = bucket ∧ other = location) := by
  unfold remove Holds
  simp only [List.mem_filter, decide_eq_true_eq, ne_eq, Prod.mk.injEq]

theorem refusals_delete (buckets : Buckets) (bucket key : String) :
    (buckets.delete bucket key).2.2.refusals = buckets.refusals := by
  by_cases accepts : buckets.Accepts bucket key
  · rw [delete_of_accepts accepts]
    rfl
  · rw [delete_of_not_accepts accepts]

theorem accepts_delete {place asked : String} :
    (buckets.delete bucket key).2.2.Accepts place asked ↔
      buckets.Accepts place asked := by
  have same := buckets.refusals_delete bucket key
  constructor
  · rintro ⟨bucketValid, keyValid, unrefused⟩
    exact ⟨bucketValid, keyValid, by rw [← same, unrefused]⟩
  · rintro ⟨bucketValid, keyValid, unrefused⟩
    exact ⟨bucketValid, keyValid, by rw [same, unrefused]⟩

theorem holds_delete {place : String} {location : Location} :
    (buckets.delete bucket key).2.2.Holds place location ↔
      buckets.Holds place location ∧
        ¬(buckets.Accepts bucket key ∧ place = bucket ∧
          location = .ofKey key) := by
  by_cases accepts : buckets.Accepts bucket key
  · rw [delete_of_accepts accepts, holds_remove]
    simp only [accepts, true_and]
  · rw [delete_of_not_accepts accepts]
    simp only [accepts, false_and, not_false_eq_true, and_true]

/-- Deletes one after the other, whatever each of them answers. -/
def deleteAll (buckets : Buckets) (deletes : List (String × String)) :
    Buckets :=
  deletes.foldl (fun buckets (bucket, key) =>
    (buckets.delete bucket key).2.2) buckets

theorem holds_deleteAll {deletes : List (String × String)} {place : String}
    {location : Location} :
    (buckets.deleteAll deletes).Holds place location ↔
      buckets.Holds place location ∧
        ∀ key, (place, key) ∈ deletes → buckets.Accepts place key →
          location ≠ .ofKey key := by
  induction deletes generalizing buckets with
  | nil => simp [deleteAll]
  | cons call rest induction =>
      obtain ⟨bucket, key⟩ := call
      have onward : buckets.deleteAll ((bucket, key) :: rest) =
          (buckets.delete bucket key).2.2.deleteAll rest := rfl
      rw [onward, induction, holds_delete]
      simp only [accepts_delete]
      constructor
      · rintro ⟨⟨held, spared⟩, later⟩
        refine ⟨held, fun asked member accepts same => ?_⟩
        rcases List.mem_cons.mp member with first | further
        · cases first
          exact spared ⟨accepts, rfl, same⟩
        · exact later asked further accepts same
      · rintro ⟨held, spared⟩
        refine ⟨⟨held, ?_⟩, fun asked member =>
          spared asked (List.mem_cons_of_mem _ member)⟩
        rintro ⟨accepts, rfl, same⟩
        exact spared key List.mem_cons_self accepts same

/-- A key none of whose segments is empty. -/
def Regular (key : String) : Prop :=
  "" ∉ split '/' key

instance (key : String) : Decidable (Regular key) :=
  inferInstanceAs (Decidable (¬_))

theorem names_of_regular {key : String} (regular : Regular key) :
    FilePath.names key = split '/' key := by
  apply List.filter_eq_self.mpr
  intro segment member
  simp only [decide_eq_true_eq, ne_eq]
  rintro rfl
  exact regular member

theorem eq_of_names_eq {left right : String} (leftRegular : Regular left)
    (rightRegular : Regular right)
    (same : FilePath.names left = FilePath.names right) : left = right := by
  rw [names_of_regular leftRegular, names_of_regular rightRegular] at same
  have pieces : splitAt '/' left.toList = splitAt '/' right.toList :=
    (List.map_inj_right fun _ _ => String.ofList_inj.mp).mp same
  apply String.toList_injective
  rw [← intercalate_splitAt '/' left.toList, pieces, intercalate_splitAt]

/-- The deletes that take away the object of a key are those of the keys with
the same non-empty segments; keys without empty ones take each their own. -/
theorem deleteAll_spares (deletes : List (String × String)) {bucket key : String}
    (held : buckets.Holds bucket (.ofKey key)) :
    let after := buckets.deleteAll deletes
    (after.Holds bucket (.ofKey key) ↔
      ∀ other, (bucket, other) ∈ deletes → buckets.Accepts bucket other →
        FilePath.names other ≠ FilePath.names key) ∧
    (Regular key →
      (∀ other, (bucket, other) ∈ deletes → Regular other ∧ other ≠ key) →
      after.Holds bucket (.ofKey key)) := by
  have spared : (buckets.deleteAll deletes).Holds bucket (.ofKey key) ↔
      ∀ other, (bucket, other) ∈ deletes → buckets.Accepts bucket other →
        FilePath.names other ≠ FilePath.names key := by
    rw [holds_deleteAll]
    simp only [held, true_and, ne_eq, Location.ofKey_eq_ofKey_iff, eq_comm]
  refine ⟨spared, fun regular others => spared.mpr ?_⟩
  intro other member _ same
  obtain ⟨otherRegular, different⟩ := others other member
  exact different (eq_of_names_eq otherRegular regular same)

/-- Two objects in one bucket. -/
def Sample.uploads : Buckets :=
  ⟨[("uploads", .ofKey "a/b"), ("uploads", .ofKey "c")], fun _ _ => none⟩

theorem deleteAll_spares_sample :
    (Sample.uploads.deleteAll [("uploads", "c"), ("other", "a/b")]).Holds
      "uploads" (.ofKey "a/b") := by
  have held : Sample.uploads.Holds "uploads" (.ofKey "a/b") :=
    List.mem_cons_self
  apply (deleteAll_spares [("uploads", "c"), ("other", "a/b")] held).2
    (by decide)
  intro other member
  simp only [List.mem_cons, Prod.mk.injEq, true_and, List.not_mem_nil,
    or_false] at member
  rcases member with rfl | ⟨impossible, _⟩
  · decide
  · exact absurd impossible (by decide)

/-- Keys that differ in a doubled slash are both valid, and have one object
between them. -/
theorem doubled_slash_collides :
    Address.ValidKey "a//b" ∧ Address.ValidKey "a/b" ∧ "a//b" ≠ "a/b" ∧
      Sample.uploads.Holds "uploads" (.ofKey "a/b") ∧
      ¬(Sample.uploads.delete "uploads" "a//b").2.2.Holds "uploads"
        (.ofKey "a/b") := by
  have keyValid : Address.ValidKey "a//b" := by decide
  have bucketValid : Address.ValidBucket "uploads" := by decide
  refine ⟨keyValid, by decide, by decide, List.mem_cons_self, fun held => ?_⟩
  have same : Location.ofKey "a/b" = .ofKey "a//b" :=
    Location.ofKey_eq_ofKey_iff.mpr (by decide)
  exact (holds_delete.mp held).2 ⟨⟨bucketValid, keyValid, rfl⟩, rfl, same⟩

end Buckets

end FileCleanup
