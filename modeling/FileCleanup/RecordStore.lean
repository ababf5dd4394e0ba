import FileCleanup.Record

namespace FileCleanup

open Time

/-!
A store of file records.  A cleanup process works on files only under a lease: claiming a file
starts one, and deleting it or releasing a lease that has gone stale ends it.
-/

structure RecordStore where
  records : List FileRecord
  distinct : (records.map (·.id)).Nodup

/-- Operations that fail until told otherwise. -/
structure StoreFaults where
  release : Bool
  claim : Bool
  increment : Bool
  softDelete : List Uuid
  deriving DecidableEq, Repr

def StoreFaults.none : StoreFaults := ⟨false, false, false, []⟩

inductive StoreProblem
  | releaseFailed
  | claimFailed
  | incrementFailed
  | softDeleteFailed
  /-- An age longer than the calendar's arithmetic takes. -/
  | ageOutOfRange
  /-- An age that leads back beyond the calendar's range. -/
  | cutoffOutOfRange
  | notFound (id : Uuid)
  deriving DecidableEq, Repr

def StoreProblem.message : StoreProblem → String
  | releaseFailed => "release failed: connection reset"
  | claimFailed => "claim failed: database unavailable"
  | incrementFailed => "increment failed: connection reset"
  | softDeleteFailed => "soft delete failed: serialization failure"
  | ageOutOfRange => "Source duration value is out of range for the target type"
  | cutoffOutOfRange => "Claim age is out of the calendar's range"
  | notFound id => "File " ++ id.text ++ " not found"

namespace FileRecord

/-- Earlier expiry first, then lower identifier; no expiry comes before all. -/
def precedes (left right : FileRecord) : Bool :=
  match left.expiresAt, right.expiresAt with
  | some leftExpiry, some rightExpiry =>
    leftExpiry < rightExpiry || leftExpiry = rightExpiry && left.id ≤ right.id
  | none, some _ => true
  | some _, none => false
  | none, none => left.id ≤ right.id

end FileRecord

namespace RecordStore

def empty : RecordStore := ⟨[], List.nodup_nil⟩

def get? (store : RecordStore) (id : Uuid) : Option FileRecord :=
  store.records.find? (·.id = id)

/-- Changes records in place; none of them changes its identifier. -/
def change (store : RecordStore) (next : FileRecord → FileRecord)
    (keeps : ∀ record, (next record).id = record.id) : RecordStore where
  records := store.records.map next
  distinct := by
    have same : (store.records.map next).map (·.id) = store.records.map (·.id) := by
      simp [keeps]
    rw [same]
    exact store.distinct

theorem length_change (store : RecordStore) (next : FileRecord → FileRecord)
    (keeps : ∀ record, (next record).id = record.id) :
    (store.change next keeps).records.length = store.records.length :=
  List.length_map next

/-- Adds a record, in place of one with its identifier. -/
def insert (store : RecordStore) (record : FileRecord) : RecordStore where
  records := record :: store.records.filter (·.id ≠ record.id)
  distinct := by
    simp only [List.map_cons, List.nodup_cons, List.mem_map, List.mem_filter]
    refine ⟨?_, (store.distinct.sublist ((List.filter_sublist).map _))⟩
    rintro ⟨other, ⟨_, different⟩, same⟩
    simp [same] at different

/-! Releasing stale claims. -/

def releasedIf (cutoff now : Instant) (record : FileRecord) : FileRecord :=
  if record.Stale cutoff then record.released now else record

theorem id_releasedIf (cutoff now : Instant) (record : FileRecord) :
    (releasedIf cutoff now record).id = record.id := by
  unfold releasedIf
  split <;> rfl

def releaseBefore (store : RecordStore) (cutoff now : Instant) : Nat × RecordStore :=
  ((store.records.filter fun record => record.Stale cutoff).length,
    store.change (releasedIf cutoff now) (id_releasedIf cutoff now))

/-- Ends every lease on a live record that is older than `age`; counts them.  The instant before
which leases are stale is looked for only if there is a lease. -/
def releaseStaleClaims (store : RecordStore) (faults : StoreFaults) (now : Instant) (age : Span) :
    Except StoreProblem (Nat × RecordStore) :=
  if faults.release then .error .releaseFailed
  else if ¬age.InRange then .error .ageOutOfRange
  else if store.records.all fun record => ¬record.Leased then .ok (0, store)
  else
    match now.minus? age with
    | some cutoff => .ok (store.releaseBefore cutoff now)
    | none => .error .cutoffOutOfRange

theorem length_of_release {store after : RecordStore} {faults : StoreFaults} {now : Instant}
    {age : Span} {count : Nat}
    (releases : store.releaseStaleClaims faults now age = .ok (count, after)) :
    after.records.length = store.records.length := by
  unfold releaseStaleClaims at releases
  split at releases
  · cases releases
  split at releases
  · cases releases
  split at releases
  · cases releases
    rfl
  split at releases
  · cases releases
    exact store.length_change _ _
  · cases releases

/-! Claiming. -/

/-- The records that a claim takes, in order. -/
def candidates (store : RecordStore) (now : Instant) (limit : Int) : List FileRecord :=
  ((store.records.filter fun record => record.Claimable now).mergeSort
    FileRecord.precedes).take limit.toNat

theorem length_candidates_le (store : RecordStore) (now : Instant) (limit : Int) :
    (store.candidates now limit).length ≤ store.records.length := by
  unfold candidates
  rw [List.length_take, List.length_mergeSort]
  exact Nat.le_trans (Nat.min_le_right _ _) (List.length_filter_le _ _)

def claimedIf (ids : List Uuid) (now : Instant) (record : FileRecord) : FileRecord :=
  if record.id ∈ ids then record.claimed now else record

theorem id_claimedIf (ids : List Uuid) (now : Instant) (record : FileRecord) :
    (claimedIf ids now record).id = record.id := by
  unfold claimedIf
  split <;> rfl

/-- Leases up to `limit` claimable records, those that expired first. -/
def claimExpired (store : RecordStore) (faults : StoreFaults) (now : Instant) (limit : Int) :
    Except StoreProblem (List FileRecord × RecordStore) :=
  if faults.claim then .error .claimFailed
  else
    let chosen := store.candidates now limit
    let ids := chosen.map (·.id)
    .ok (chosen.map (·.claimed now), store.change (claimedIf ids now) (id_claimedIf ids now))

/-! Changing one record. -/

def changeAt (id : Uuid) (next : FileRecord → FileRecord) (record : FileRecord) : FileRecord :=
  if record.id = id then next record else record

theorem id_changeAt {id : Uuid} {next : FileRecord → FileRecord}
    (keeps : ∀ record, (next record).id = record.id) (record : FileRecord) :
    (changeAt id next record).id = record.id := by
  unfold changeAt
  split
  · exact keeps record
  · rfl

def modify (store : RecordStore) (id : Uuid) (next : FileRecord → FileRecord)
    (keeps : ∀ record, (next record).id = record.id) : RecordStore :=
  store.change (changeAt id next) (id_changeAt keeps)

/-- Counts one more failed attempt; the lease stays. -/
def recordFailedAttempt (store : RecordStore) (faults : StoreFaults) (now : Instant) (id : Uuid) :
    Except StoreProblem RecordStore :=
  if faults.increment then .error .incrementFailed
  else if (store.get? id).isNone then .error (.notFound id)
  else .ok (store.modify id (·.withFailedAttempt now) (FileRecord.id_withFailedAttempt now))

/-- Marks a record deleted and ends its lease; an unknown identifier is no error. -/
def softDelete (store : RecordStore) (faults : StoreFaults) (now : Instant) (id : Uuid) :
    Except StoreProblem RecordStore :=
  if id ∈ faults.softDelete then .error .softDeleteFailed
  else .ok (store.modify id (·.softDeleted now) (FileRecord.id_softDeleted now))

end RecordStore

end FileCleanup
