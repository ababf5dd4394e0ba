import FileCleanup.Simulation.World
import Mathlib.Data.List.Nodup

namespace FileCleanup

open Time

/-! What one call can make of one record: it stays as it is, or goes through one of the four
changes of its life. -/

inductive FileRecord.Change (now : Instant) :
    Call → FileRecord → FileRecord → Prop
  | kept (call : Call) (record : FileRecord) : Change now call record record
  | released {age : Span} {cutoff : Instant} {record : FileRecord}
      (led : now.minus? age = some cutoff) (stale : record.Stale cutoff) :
      Change now (.releaseStaleClaims age) record (record.released now)
  | claimed (limit : Int) {record : FileRecord}
      (claimable : record.Claimable now) :
      Change now (.claimExpired limit) record (record.claimed now)
  | counted (record : FileRecord) :
      Change now (.recordFailedAttempt record.id) record
        (record.withFailedAttempt now)
  | deleted {record : FileRecord} (live : record.Live) :
      Change now (.softDelete record.id) record (record.softDeleted now)

namespace FileRecord

/-- Live and expired, under a lease or not. -/
def Due (now : Instant) (record : FileRecord) : Prop :=
  record.Live ∧ record.Expired now

instance (now : Instant) (record : FileRecord) : Decidable (record.Due now) :=
  inferInstanceAs (Decidable (_ ∧ _))

theorem Expired.mono {record : FileRecord} {earlier later : Instant}
    (expired : record.Expired earlier) (passes : earlier ≤ later) :
    record.Expired later := by
  unfold Expired at expired ⊢
  split at expired
  · exact Int.le_trans expired passes
  · exact False.elim expired

theorem Claimable.due {now : Instant} {record : FileRecord}
    (claimable : record.Claimable now) : record.Due now :=
  ⟨claimable.1, claimable.2.2⟩

theorem softDeleted_of_live {record : FileRecord} (live : record.Live)
    (now : Instant) :
    record.softDeleted now =
      { record with
        deletedAt := some now, claimedAt := none, updatedAt := now } := by
  rw [softDeleted, if_pos live]

theorem softDeleted_of_not_live {record : FileRecord} (dead : ¬record.Live)
    (now : Instant) : record.softDeleted now = record := by
  rw [softDeleted, if_neg dead]

theorem not_live_softDeleted (now : Instant) (record : FileRecord) :
    ¬(record.softDeleted now).Live := by
  by_cases live : record.Live
  · rw [softDeleted_of_live live]
    exact Option.some_ne_none now
  · rwa [softDeleted_of_not_live live]

/-- Two records that name the same stored file. -/
structure SameFile (left right : FileRecord) : Prop where
  id : left.id = right.id
  bucket : left.bucket = right.bucket
  storageKey : left.storageKey = right.storageKey
  expiresAt : left.expiresAt = right.expiresAt

namespace SameFile

theorem refl (record : FileRecord) : SameFile record record :=
  ⟨rfl, rfl, rfl, rfl⟩

theorem trans {first second third : FileRecord}
    (left : SameFile first second) (right : SameFile second third) :
    SameFile first third :=
  ⟨left.id.trans right.id, left.bucket.trans right.bucket,
    left.storageKey.trans right.storageKey,
    left.expiresAt.trans right.expiresAt⟩

theorem expired {left right : FileRecord} (same : SameFile left right)
    {now : Instant} (expired : right.Expired now) : left.Expired now := by
  unfold Expired at expired ⊢
  rwa [same.expiresAt]

end SameFile

theorem sameFile_claimed (now : Instant) (record : FileRecord) :
    SameFile (record.claimed now) record :=
  ⟨rfl, rfl, rfl, rfl⟩

theorem Change.sameFile {now : Instant} {call : Call}
    {before after : FileRecord} (change : Change now call before after) :
    SameFile after before := by
  cases change with
  | kept => exact .refl _
  | released => exact ⟨rfl, rfl, rfl, rfl⟩
  | claimed => exact ⟨rfl, rfl, rfl, rfl⟩
  | counted => exact ⟨rfl, rfl, rfl, rfl⟩
  | deleted live =>
      rw [softDeleted_of_live live]
      exact ⟨rfl, rfl, rfl, rfl⟩

end FileRecord

namespace RecordStore

variable {store : RecordStore} {faults : StoreFaults} {now : Instant}

theorem eq_of_mem_of_id_eq {left right : FileRecord}
    (leftMember : left ∈ store.records) (rightMember : right ∈ store.records)
    (same : left.id = right.id) : left = right :=
  List.inj_on_of_nodup_map store.distinct leftMember rightMember same

/-- The store after a call; a call that fails leaves it as it was. -/
def afterCall (store : RecordStore) (faults : StoreFaults) (now : Instant) :
    Call → RecordStore
  | .releaseStaleClaims age =>
    match store.releaseStaleClaims faults now age with
    | .ok (_, after) => after
    | .error _ => store
  | .claimExpired limit =>
    match store.claimExpired faults now limit with
    | .ok (_, after) => after
    | .error _ => store
  | .recordFailedAttempt id =>
    match store.recordFailedAttempt faults now id with
    | .ok after => after
    | .error _ => store
  | .softDelete id =>
    match store.softDelete faults now id with
    | .ok after => after
    | .error _ => store
  | .deleteObject _ _ => store

theorem mem_candidates {limit : Int} {record : FileRecord}
    (member : record ∈ store.candidates now limit) :
    record ∈ store.records ∧ record.Claimable now := by
  have sorted := List.mem_of_mem_take member
  rw [List.mem_mergeSort, List.mem_filter] at sorted
  exact ⟨sorted.1, of_decide_eq_true sorted.2⟩

/-- Every record of the store is changed by itself. -/
def Changes (now : Instant) (call : Call) (before after : RecordStore) : Prop :=
  ∃ next : FileRecord → FileRecord,
    after.records = before.records.map next ∧
      ∀ record ∈ before.records, record.Change now call (next record)

theorem changes_refl (now : Instant) (call : Call) (store : RecordStore) :
    Changes now call store store :=
  ⟨id, by simp, fun record _ => .kept call record⟩

private theorem changes_release (age : Span) :
    Changes now (.releaseStaleClaims age) store
      (store.afterCall faults now (.releaseStaleClaims age)) := by
  simp only [afterCall, releaseStaleClaims]
  split
  case h_2 => exact changes_refl ..
  case h_1 count after released =>
    split at released
    · cases released
    split at released
    · cases released
    split at released
    · cases released
      exact changes_refl ..
    split at released
    · rename_i cutoff led
      cases released
      refine ⟨releasedIf cutoff now, rfl, ?_⟩
      intro record _
      unfold releasedIf
      split
      · rename_i stale
        exact .released led stale
      · exact .kept _ _
    · cases released

private theorem changes_claim (limit : Int) :
    Changes now (.claimExpired limit) store
      (store.afterCall faults now (.claimExpired limit)) := by
  simp only [afterCall, claimExpired]
  split
  case h_2 => exact changes_refl ..
  case h_1 files after claimed =>
    split at claimed
    · cases claimed
    cases claimed
    refine ⟨claimedIf ((store.candidates now limit).map (·.id)) now, rfl, ?_⟩
    intro record member
    unfold claimedIf
    split
    · rename_i chosen
      obtain ⟨candidate, candidateMember, same⟩ := List.mem_map.mp chosen
      obtain ⟨stored, claimable⟩ := mem_candidates candidateMember
      rw [eq_of_mem_of_id_eq stored member same] at claimable
      exact .claimed limit claimable
    · exact .kept _ _

private theorem changes_failedAttempt (id : Uuid) :
    Changes now (.recordFailedAttempt id) store
      (store.afterCall faults now (.recordFailedAttempt id)) := by
  simp only [afterCall, recordFailedAttempt]
  split
  case h_2 => exact changes_refl ..
  case h_1 after counted =>
    split at counted
    · cases counted
    split at counted
    · cases counted
    cases counted
    refine ⟨changeAt id (·.withFailedAttempt now), rfl, ?_⟩
    intro record _
    unfold changeAt
    split
    · rename_i same
      rw [← same]
      exact .counted record
    · exact .kept _ _

private theorem changes_softDelete (id : Uuid) :
    Changes now (.softDelete id) store
      (store.afterCall faults now (.softDelete id)) := by
  simp only [afterCall, softDelete]
  split
  case h_2 => exact changes_refl ..
  case h_1 after deleted =>
    split at deleted
    · cases deleted
    cases deleted
    refine ⟨changeAt id (·.softDeleted now), rfl, ?_⟩
    intro record _
    unfold changeAt
    split
    · rename_i same
      by_cases live : record.Live
      · rw [← same]
        exact .deleted live
      · have unchanged := FileRecord.softDeleted_of_not_live live now
        simp only [unchanged]
        exact .kept _ _
    · exact .kept _ _

theorem changes_afterCall (store : RecordStore) (faults : StoreFaults)
    (now : Instant) (call : Call) :
    Changes now call store (store.afterCall faults now call) := by
  cases call with
  | releaseStaleClaims age => exact changes_release age
  | claimExpired limit => exact changes_claim limit
  | deleteObject bucket key => exact changes_refl ..
  | recordFailedAttempt id => exact changes_failedAttempt id
  | softDelete id => exact changes_softDelete id

theorem Changes.exists_after {call : Call} {after : RecordStore}
    (changes : Changes now call store after) {record : FileRecord}
    (member : record ∈ store.records) :
    ∃ later ∈ after.records, record.Change now call later := by
  obtain ⟨next, records, change⟩ := changes
  refine ⟨next record, ?_, change record member⟩
  rw [records]
  exact List.mem_map_of_mem member

theorem Changes.exists_before {call : Call} {after : RecordStore}
    (changes : Changes now call store after) {later : FileRecord}
    (member : later ∈ after.records) :
    ∃ record ∈ store.records, record.Change now call later := by
  obtain ⟨next, records, change⟩ := changes
  rw [records] at member
  obtain ⟨record, recordMember, rfl⟩ := List.mem_map.mp member
  exact ⟨record, recordMember, change record recordMember⟩

end RecordStore

end FileCleanup
