import FileCleanup.Proofs.Store.Change

namespace FileCleanup

open Time

/-! The records after each call, as functions of the records before it. -/

theorem FileRecord.Stale.leased {cutoff : Instant} {record : FileRecord}
    (stale : record.Stale cutoff) : record.Leased := by
  refine ⟨stale.1, ?_⟩
  intro unclaimed
  have claimed := stale.2
  rw [ClaimedBefore, unclaimed] at claimed
  exact claimed

/-- What the end of its lease makes of a record, if it is under one. -/
def FileRecord.unleased (now : Instant) (record : FileRecord) : FileRecord :=
  if record.Leased then record.released now else record

theorem FileRecord.claimable_unleased {now : Instant} {record : FileRecord} :
    (record.unleased now).Claimable now ↔ record.Due now := by
  unfold unleased
  split
  · exact ⟨fun claimable => claimable.due, fun due => ⟨due.1, rfl, due.2⟩⟩
  · rename_i unleased
    have unclaimed (live : record.Live) : record.claimedAt = none :=
      Classical.byContradiction fun leased => unleased ⟨live, leased⟩
    exact ⟨Claimable.due, fun due => ⟨due.1, unclaimed due.1, due.2⟩⟩

theorem FileRecord.address_unleased (now : Instant) (record : FileRecord) :
    (record.unleased now).address = record.address := by
  unfold unleased
  split <;> rfl

theorem FileRecord.stale_of_hasStaleClaim? {now : Instant} {age : Span}
    {record : FileRecord} (leased : record.Leased)
    (stale : record.hasStaleClaim? now age = some true) :
    ∃ cutoff, now.minus? age = some cutoff ∧ record.Stale cutoff := by
  rw [hasStaleClaim?, if_pos leased] at stale
  obtain ⟨cutoff, led, before⟩ := Option.map_eq_some_iff.mp stale
  exact ⟨cutoff, led, of_decide_eq_true before⟩

theorem FileRecord.hasStaleClaim?_of_stale {now cutoff : Instant} {age : Span}
    {record : FileRecord} (led : now.minus? age = some cutoff)
    (stale : record.Stale cutoff) :
    record.hasStaleClaim? now age = some true := by
  rw [hasStaleClaim?, if_pos stale.leased, led, Option.map_some,
    decide_eq_true stale]

namespace RecordStore

variable {store : RecordStore} {faults : StoreFaults} {now : Instant}
  {file : FileRecord} {id other : Uuid}

/-- The records after leases that began before `cutoff` have been released. -/
def releasedRecords (store : RecordStore) (faults : StoreFaults)
    (now cutoff : Instant) : List FileRecord :=
  if faults.release then store.records
  else store.records.map fun record =>
    if record.Stale cutoff then
      { record with claimedAt := none, updatedAt := now }
    else record

theorem map_eq_self {records : List FileRecord}
    {next : FileRecord → FileRecord}
    (keeps : ∀ record ∈ records, next record = record) :
    records.map next = records :=
  calc
    records.map next = records.map id := List.map_congr_left keeps
    _ = records := List.map_id records

/-- Where no live record is leased there is nothing to release. -/
theorem afterCall_release_idle (age : Span)
    (idle : ∀ record ∈ store.records, ¬record.Leased) :
    store.afterCall faults now (.releaseStaleClaims age) = store := by
  have unleased : (store.records.all fun record => ¬record.Leased) = true := by
    simpa using idle
  simp only [afterCall, releaseStaleClaims, unleased, if_true]
  by_cases faulty : faults.release <;> by_cases inRange : age.InRange <;>
    simp [faulty, inRange]

theorem eq_of_records {left right : RecordStore}
    (same : left.records = right.records) : left = right := by
  cases left
  cases right
  cases same
  rfl

/-- Where no lease is stale there is nothing to release. -/
theorem afterCall_release_fresh {age : Span}
    (fresh : ∀ record ∈ store.records,
      record.hasStaleClaim? now age ≠ some true) :
    store.afterCall faults now (.releaseStaleClaims age) = store := by
  obtain ⟨next, records, change⟩ :=
    changes_afterCall store faults now (.releaseStaleClaims age)
  apply eq_of_records
  rw [records]
  apply map_eq_self
  intro record member
  generalize changed : next record = later
  have change := change record member
  rw [changed] at change
  cases change with
  | kept => rfl
  | released led stale =>
      exact absurd (FileRecord.hasStaleClaim?_of_stale led stale)
        (fresh record member)

theorem records_release {age : Span} {cutoff : Instant} (inRange : age.InRange)
    (led : now.minus? age = some cutoff) :
    (store.afterCall faults now (.releaseStaleClaims age)).records =
      store.releasedRecords faults now cutoff := by
  unfold releasedRecords
  by_cases faulty : faults.release
  · simp [afterCall, releaseStaleClaims, faulty]
  rw [if_neg faulty]
  by_cases idle : ∀ record ∈ store.records, ¬record.Leased
  · rw [afterCall_release_idle age idle, map_eq_self]
    intro record member
    have fresh : ¬record.Stale cutoff :=
      fun stale => idle record member stale.leased
    rw [if_neg fresh]
  · have leased : (store.records.all fun record => ¬record.Leased) = false := by
      simpa using idle
    simp only [afterCall, releaseStaleClaims, faulty, inRange, leased, led]
    rfl

/-- Where every lease on a live record is stale, a release ends all of them. -/
theorem records_release_stale {age : Span} (inRange : age.InRange)
    (sound : faults.release = false)
    (stale : ∀ record ∈ store.records, record.Leased →
      record.hasStaleClaim? now age = some true) :
    (store.afterCall faults now (.releaseStaleClaims age)).records =
      store.records.map (·.unleased now) := by
  by_cases idle : ∀ record ∈ store.records, ¬record.Leased
  · rw [afterCall_release_idle age idle, map_eq_self]
    intro record member
    rw [FileRecord.unleased, if_neg (idle record member)]
  · obtain ⟨leased, leasedMember, leasedOpen⟩ : ∃ record ∈ store.records,
        record.Leased := by simpa using idle
    obtain ⟨cutoff, led, _⟩ := FileRecord.stale_of_hasStaleClaim? leasedOpen
      (stale leased leasedMember leasedOpen)
    rw [records_release inRange led, releasedRecords, sound]
    apply List.map_congr_left
    intro record member
    have agree : record.Stale cutoff ↔ record.Leased := by
      constructor
      · exact FileRecord.Stale.leased
      · intro leased
        obtain ⟨other, otherLed, staleOther⟩ :=
          FileRecord.stale_of_hasStaleClaim? leased (stale record member leased)
        rw [led] at otherLed
        cases otherLed
        exact staleOther
    simp only [agree]
    rfl

theorem records_claim {limit : Int} (sound : faults.claim = false) :
    (store.afterCall faults now (.claimExpired limit)).records =
      store.records.map fun record =>
        if record ∈ store.candidates now limit then record.claimed now
        else record := by
  simp only [afterCall, claimExpired, sound]
  apply List.map_congr_left
  intro record member
  have chosen : record.id ∈ (store.candidates now limit).map (·.id) ↔
      record ∈ store.candidates now limit := by
    rw [List.mem_map]
    constructor
    · rintro ⟨candidate, candidateMember, same⟩
      rwa [← eq_of_mem_of_id_eq (mem_candidates candidateMember).1 member same]
    · exact fun candidate => ⟨record, candidate, rfl⟩
  simp only [claimedIf, chosen]

theorem records_modify (member : file ∈ store.records)
    (next : FileRecord → FileRecord)
    (keeps : ∀ record, (next record).id = record.id) :
    (store.modify file.id next keeps).records =
      store.records.map fun record =>
        if record = file then next record else record := by
  apply List.map_congr_left
  intro record recordMember
  have same : record.id = file.id ↔ record = file :=
    ⟨eq_of_mem_of_id_eq recordMember member, congrArg FileRecord.id⟩
  simp only [changeAt, same]

theorem get?_of_mem (member : file ∈ store.records) :
    store.get? file.id = some file := by
  unfold get?
  cases found : store.records.find? (·.id = file.id) with
  | none =>
      have absent := List.find?_eq_none.mp found file member
      simp at absent
  | some other =>
      have same : other.id = file.id := by simpa using List.find?_some found
      rw [eq_of_mem_of_id_eq (List.mem_of_find?_eq_some found) member same]

theorem get?_change (next : FileRecord → FileRecord)
    (keeps : ∀ record, (next record).id = record.id) :
    (store.change next keeps).get? id = (store.get? id).map next := by
  simp only [get?, change, List.find?_map, Function.comp_def, keeps]

theorem get?_modify (next : FileRecord → FileRecord)
    (keeps : ∀ record, (next record).id = record.id) :
    (store.modify id next keeps).get? other =
      if other = id then (store.get? other).map next else store.get? other := by
  rw [modify, get?_change]
  cases found : store.get? other with
  | none => simp
  | some record =>
      have named : record.id = other := by simpa using List.find?_some found
      subst named
      simp only [Option.map_some, changeAt]
      split <;> rfl

theorem get?_recordFailedAttempt :
    (store.afterCall faults now (.recordFailedAttempt id)).get? other =
      if other = id ∧ faults.increment = false then
        (store.get? other).map (·.withFailedAttempt now)
      else store.get? other := by
  by_cases faulty : faults.increment = true
  · simp [afterCall, recordFailedAttempt, faulty]
  by_cases unknown : (store.get? id).isNone
  · simp only [afterCall, recordFailedAttempt, faulty, unknown]
    by_cases same : other = id
    · subst same
      simp [Option.isNone_iff_eq_none.mp unknown]
    · simp [same]
  · simp [afterCall, recordFailedAttempt, faulty, unknown, get?_modify]

theorem get?_softDelete :
    (store.afterCall faults now (.softDelete id)).get? other =
      if other = id ∧ id ∉ faults.softDelete then
        (store.get? other).map (·.softDeleted now)
      else store.get? other := by
  by_cases faulty : id ∈ faults.softDelete
  · simp [afterCall, softDelete, faulty]
  · simp [afterCall, softDelete, faulty, get?_modify]

theorem records_recordFailedAttempt (member : file ∈ store.records) :
    (store.afterCall faults now (.recordFailedAttempt file.id)).records =
      store.records.map fun record =>
        if record = file then
          if faults.increment then record else record.withFailedAttempt now
        else record := by
  by_cases faulty : faults.increment
  · simp [afterCall, recordFailedAttempt, faulty]
  · simp [afterCall, recordFailedAttempt, faulty, get?_of_mem member,
      records_modify member]

theorem records_softDelete (member : file ∈ store.records) :
    (store.afterCall faults now (.softDelete file.id)).records =
      store.records.map fun record =>
        if record = file then
          if record.id ∈ faults.softDelete then record
          else record.softDeleted now
        else record := by
  by_cases faulty : file.id ∈ faults.softDelete
  · have unchanged (record : FileRecord) :
        (if record = file then
          if record.id ∈ faults.softDelete then record
          else record.softDeleted now
        else record) = record := by
      split
      · rename_i same
        rw [if_pos (same ▸ faulty)]
      · rfl
    simp [afterCall, softDelete, faulty, unchanged]
  · simp only [afterCall, softDelete, if_neg faulty, records_modify member]
    apply List.map_congr_left
    intro record _
    split
    · rename_i same
      rw [if_neg (same ▸ faulty)]
    · rfl

end RecordStore

end FileCleanup
