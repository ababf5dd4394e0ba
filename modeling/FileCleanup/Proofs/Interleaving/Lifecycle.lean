import FileCleanup.Proofs.Interleaving.Exchanges
import FileCleanup.Proofs.Interleaving.Run
import FileCleanup.Proofs.Store.ClaimOrder
import FileCleanup.Proofs.Time.Elapsed

namespace FileCleanup

open Time

/-! What the records of a store are at any time of a run, and what they never
lose on the way. -/

namespace FileRecord

/-- A deleted record is under no lease, a lease begins when the file has
expired, and changes lie in the past. -/
structure Orderly (now : Instant) (record : FileRecord) : Prop where
  unleased : ¬record.Live → record.claimedAt = none
  leased : ∀ expiry claim, record.expiresAt = some expiry →
    record.claimedAt = some claim → expiry ≤ claim
  updated : record.updatedAt ≤ now

theorem Orderly.of_unclaimed {now : Instant} {record : FileRecord}
    (unclaimed : record.claimedAt = none) (updated : record.updatedAt ≤ now) :
    record.Orderly now where
  unleased _ := unclaimed
  leased expiry claim _ claims := by cases unclaimed.symm.trans claims
  updated := updated

theorem Orderly.mono {record : FileRecord} {earlier later : Instant}
    (orderly : record.Orderly earlier) (passes : earlier ≤ later) :
    record.Orderly later where
  unleased := orderly.unleased
  leased := orderly.leased
  updated := Int.le_trans orderly.updated passes

theorem Fate.orderly {now : Instant} {exchange? : Option Exchange}
    {before after : FileRecord} (fate : Fate now exchange? before after)
    (orderly : before.Orderly now) : after.Orderly now := by
  cases fate with
  | kept => exact orderly
  | released => exact .of_unclaimed rfl now.le_refl
  | claimed claimable =>
      refine ⟨fun dead => absurd claimable.1 dead, ?_, now.le_refl⟩
      intro expiry claim expires claims
      obtain ⟨other, otherExpires, passed⟩ := expiry_of_claimable claimable
      cases otherExpires.symm.trans expires
      cases claims
      exact passed
  | counted => exact ⟨orderly.unleased, orderly.leased, now.le_refl⟩
  | deleted live =>
      rw [softDeleted_of_live live]
      exact .of_unclaimed rfl now.le_refl

theorem toInt_counter_add_one {counter : Int32}
    (bounded : counter < Int32.maxValue) :
    (counter + 1).toInt = counter.toInt + 1 := by
  have least := counter.le_toInt
  rw [Int32.lt_iff_toInt_lt, Int32.toInt_maxValue] at bounded
  rw [Int32.toInt_add, Int32.toInt_one]
  apply Int.bmod_eq_of_le <;> omega

/-- The later record is what has become of the earlier one. -/
structure Continues (before after : FileRecord) : Prop
    extends SameFile after before where
  tenant : after.tenant = before.tenant
  originalFilename : after.originalFilename = before.originalFilename
  contentType : after.contentType = before.contentType
  fileSize : after.fileSize = before.fileSize
  createdAt : after.createdAt = before.createdAt
  deletedAt : ∀ instant, before.deletedAt = some instant →
    after.deletedAt = some instant
  /-- Only files that expire come under a lease. -/
  permanent : before.expiresAt = none → before.claimedAt = none →
    after.claimedAt = none
  failedAttempts : before.failedAttempts ≤ after.failedAttempts
  updatedAt : before.updatedAt ≤ after.updatedAt

namespace Continues

theorem refl (record : FileRecord) : Continues record record where
  toSameFile := .refl record
  tenant := rfl
  originalFilename := rfl
  contentType := rfl
  fileSize := rfl
  createdAt := rfl
  deletedAt _ deleted := deleted
  permanent _ unclaimed := unclaimed
  failedAttempts := Int32.le_refl _
  updatedAt := Int.le_refl _

theorem trans {first second third : FileRecord}
    (left : Continues first second) (right : Continues second third) :
    Continues first third where
  toSameFile := right.toSameFile.trans left.toSameFile
  tenant := right.tenant.trans left.tenant
  originalFilename := right.originalFilename.trans left.originalFilename
  contentType := right.contentType.trans left.contentType
  fileSize := right.fileSize.trans left.fileSize
  createdAt := right.createdAt.trans left.createdAt
  deletedAt instant deleted :=
    right.deletedAt instant (left.deletedAt instant deleted)
  permanent unlimited unclaimed :=
    right.permanent (left.expiresAt.trans unlimited)
      (left.permanent unlimited unclaimed)
  failedAttempts := Int32.le_trans left.failedAttempts right.failedAttempts
  updatedAt := Int.le_trans left.updatedAt right.updatedAt

end Continues

theorem Fate.continues {now : Instant} {exchange? : Option Exchange}
    {before after : FileRecord} (fate : Fate now exchange? before after)
    (updated : before.updatedAt ≤ now)
    (counted : before.failedAttempts ≤ after.failedAttempts) :
    Continues before after := by
  have same := fate.sameFile
  cases fate with
  | kept => exact .refl _
  | released =>
      exact { Continues.refl before with
        toSameFile := same
        permanent := fun _ _ => rfl
        failedAttempts := counted
        updatedAt := updated }
  | claimed claimable =>
      refine { Continues.refl before with
        toSameFile := same
        permanent := ?_
        failedAttempts := counted
        updatedAt := updated }
      intro unlimited
      obtain ⟨expiry, expires, _⟩ := expiry_of_claimable claimable
      cases unlimited.symm.trans expires
  | counted =>
      exact { Continues.refl before with
        toSameFile := same
        failedAttempts := counted
        updatedAt := updated }
  | deleted live =>
      rw [softDeleted_of_live live] at same counted ⊢
      refine { Continues.refl before with
        toSameFile := same
        deletedAt := ?_
        permanent := fun _ _ => rfl
        failedAttempts := counted
        updatedAt := updated }
      intro instant deleted
      cases live.symm.trans deleted

end FileRecord

/-- No record appears or disappears, and each goes on. -/
def RecordStore.Continues (before after : RecordStore) : Prop :=
  List.Forall₂ FileRecord.Continues before.records after.records

namespace RecordStore.Continues

theorem refl (store : RecordStore) : Continues store store :=
  List.forall₂_same.mpr fun record _ => .refl record

private theorem forall₂_trans {first second third : List FileRecord}
    (left : List.Forall₂ FileRecord.Continues first second)
    (right : List.Forall₂ FileRecord.Continues second third) :
    List.Forall₂ FileRecord.Continues first third := by
  induction left generalizing third with
  | nil => exact right
  | cons head _ induction =>
      cases right with
      | cons next rest => exact .cons (head.trans next) (induction rest)

theorem trans {first second third : RecordStore}
    (left : Continues first second) (right : Continues second third) :
    Continues first third :=
  forall₂_trans left right

end RecordStore.Continues

namespace Simulation.Interleaving

variable {state : Interleaving} {move : Move} {moves : List Move}

/-- A move counts one more failed attempt of a file. -/
def Counts (state : Interleaving) (move : Move) (id : Uuid) : Prop :=
  state.exchange? move = some ⟨.recordFailedAttempt id, .ok ()⟩

/-- What a move makes of one record, down to its counter. -/
structure Steps (state : Interleaving) (move : Move)
    (record later : FileRecord) : Prop where
  fate : record.Fate state.world.now (state.exchange? move) later
  counted : state.Counts move record.id →
    later.failedAttempts = record.failedAttempts + 1

theorem Steps.uncounted {record later : FileRecord}
    (steps : state.Steps move record later)
    (silent : ¬state.Counts move record.id) :
    later.failedAttempts = record.failedAttempts := by
  have fate := steps.fate
  generalize spoken : state.exchange? move = exchange? at fate
  cases fate with
  | counted => exact absurd spoken silent
  | deleted live => rw [FileRecord.softDeleted_of_live live]
  | _ => rfl

theorem exists_map_step (state : Interleaving) (move : Move) :
    ∃ next : FileRecord → FileRecord,
      (state.step move).world.store.records =
        state.world.store.records.map next ∧
      ∀ record ∈ state.world.store.records,
        Changed state move record (next record) := by
  rw [store_step]
  split
  · rename_i call calls
    obtain ⟨next, records, change⟩ := state.world.store.changes_afterCall
      state.world.faults state.world.now call
    exact ⟨next, records, fun record member =>
      .changed calls (change record member)⟩
  · exact ⟨id, (List.map_id _).symm, fun record _ => .kept record⟩

theorem records_step_of_counts {record : FileRecord}
    (member : record ∈ state.world.store.records)
    (counts : state.Counts move record.id) :
    (state.step move).world.store.records =
      state.world.store.records.map fun other =>
        if other = record then other.withFailedAttempt state.world.now
        else other := by
  obtain ⟨calls, answered⟩ := call?_of_exchange? counts
  have sound := World.sound_of_counted answered.symm
  rw [store_step, calls]
  simp only [RecordStore.records_recordFailedAttempt member, sound]
  rfl

theorem forall₂_step (state : Interleaving) (move : Move) :
    List.Forall₂ (state.Steps move) state.world.store.records
      (state.step move).world.store.records := by
  obtain ⟨next, records, changed⟩ := exists_map_step state move
  rw [records, List.forall₂_map_right_iff, List.forall₂_same]
  intro record member
  have laterMember : next record ∈ (state.step move).world.store.records := by
    rw [records]
    exact List.mem_map_of_mem member
  refine ⟨(changed record member).fate member laterMember, ?_⟩
  intro counts
  -- Both lists are the same, so they agree at every record of the store.
  have both := records.symm.trans (records_step_of_counts member counts)
  rw [List.map_inj_left.mp both record member, if_pos rfl]
  rfl

/-- All records are in order at the instant that the clock shows. -/
def Orderly (state : Interleaving) : Prop :=
  ∀ record ∈ state.world.store.records, record.Orderly state.world.now

/-- No counter is at its end when it is to count one more. -/
def Countable (state : Interleaving) : List Move → Prop
  | [] => True
  | move :: moves =>
    (∀ record ∈ state.world.store.records, state.Counts move record.id →
      record.failedAttempts < Int32.maxValue) ∧
    (state.step move).Countable moves

theorem Orderly.step (orderly : state.Orderly)
    (passes : state.world.now ≤ (state.step move).world.now) :
    (state.step move).Orderly := by
  intro later member
  obtain ⟨record, recordMember, changed⟩ := exists_before member
  have fate := changed.fate recordMember member
  exact (fate.orderly (orderly record recordMember)).mono passes

theorem Steps.continues {record later : FileRecord}
    (steps : state.Steps move record later)
    (orderly : record.Orderly state.world.now)
    (bounded : state.Counts move record.id →
      record.failedAttempts < Int32.maxValue) :
    record.Continues later := by
  have counted : record.failedAttempts ≤ later.failedAttempts := by
    by_cases counts : state.Counts move record.id
    · rw [steps.counted counts, Int32.le_iff_toInt_le,
        FileRecord.toInt_counter_add_one (bounded counts)]
      omega
    · rw [steps.uncounted counts]
      exact Int32.le_refl _
  exact steps.fate.continues orderly.updated counted

theorem Orderly.continues_step (orderly : state.Orderly)
    (bounded : ∀ record ∈ state.world.store.records,
      state.Counts move record.id → record.failedAttempts < Int32.maxValue) :
    state.world.store.Continues (state.step move).world.store := by
  have steps := (List.forall₂_and_left _ _).mpr
    ⟨fun record member => And.intro (orderly record member)
      (bounded record member), forall₂_step state move⟩
  refine steps.imp ?_
  rintro record later ⟨⟨ordered, bound⟩, step⟩
  exact step.continues ordered bound

theorem Orderly.run (orderly : state.Orderly) (forward : state.Forward moves) :
    (state.run moves).Orderly := by
  induction moves generalizing state with
  | nil => exact orderly
  | cons move moves induction =>
      exact induction (orderly.step forward.1) forward.2

theorem Orderly.continues_run (orderly : state.Orderly)
    (forward : state.Forward moves) (countable : state.Countable moves) :
    state.world.store.Continues (state.run moves).world.store := by
  induction moves generalizing state with
  | nil => exact .refl _
  | cons move moves induction =>
      exact (orderly.continues_step countable.1).trans
        (induction (orderly.step forward.1) forward.2 countable.2)

theorem countable_append {earlier later : List Move} :
    state.Countable (earlier ++ later) ↔
      state.Countable earlier ∧ (state.run earlier).Countable later := by
  induction earlier generalizing state with
  | nil => exact ⟨fun holds => ⟨trivial, holds⟩, And.right⟩
  | cons move moves induction =>
      change _ ∧ (state.step move).Countable (moves ++ later) ↔ _
      rw [induction, ← and_assoc]
      rfl

/-- Whoever calls, a store that is in order stays so, and each of its records
goes on; only attempts that are counted move a counter, and errors change
nothing. -/
theorem run_keeps_lifecycle {start : Interleaving} {moves : List Move}
    (orderly : start.Orderly) (forward : start.Forward moves)
    (countable : start.Countable moves) :
    (start.run moves).Orderly ∧
    (∀ earlier later, moves = earlier ++ later →
      (start.run earlier).world.store.Continues
        (start.run moves).world.store) ∧
    ∀ earlier move later, moves = earlier ++ move :: later →
      let state := start.run earlier
      let next := state.step move
      List.Forall₂
        (fun record successor =>
          (state.Counts move record.id → successor.failedAttempts.toInt =
            record.failedAttempts.toInt + 1) ∧
          (¬state.Counts move record.id →
            successor.failedAttempts = record.failedAttempts))
        state.world.store.records next.world.store.records ∧
      ∀ exchange, state.exchange? move = some exchange →
        exchange.succeeds = false → next.world.store = state.world.store := by
  refine ⟨orderly.run forward, ?_, ?_⟩
  · rintro earlier later rfl
    rw [forward_append] at forward
    rw [countable_append] at countable
    rw [run_append]
    exact (orderly.run forward.1).continues_run forward.2 countable.2
  · rintro earlier move later rfl state next
    rw [countable_append] at countable
    have bounded := countable.2.1
    refine ⟨?_, fun exchange => store_step_of_refused⟩
    have steps := (List.forall₂_and_left _ _).mpr
      ⟨bounded, forall₂_step state move⟩
    refine steps.imp ?_
    rintro record successor ⟨bound, step⟩
    refine ⟨fun counts => ?_, step.uncounted⟩
    rw [step.counted counts, FileRecord.toInt_counter_add_one (bound counts)]

/-- A file that is claimed, fails to be deleted and is deleted later. -/
def Sample.career : List Move :=
  [.call (.claimExpired 5), .call (.recordFailedAttempt Sample.expired.id),
    .passTime .base 600000, .call (.softDelete Sample.expired.id)]

theorem run_keeps_lifecycle_sample :
    Sample.world.store.Continues
      ((ofWorld Sample.world).run Sample.career).world.store := by
  have orderly : (ofWorld Sample.world).Orderly := by
    have unclaimed : ∀ record ∈ Sample.world.store.records,
        record.claimedAt = none ∧ record.updatedAt ≤ Sample.world.now := by
      decide +kernel
    intro record member
    obtain ⟨none, updated⟩ := unclaimed record member
    exact .of_unclaimed none updated
  have countable : (ofWorld Sample.world).Countable Sample.career := by
    refine ⟨?_, ?_, ?_, ?_, trivial⟩
    all_goals
      intro record member counts
      clear counts
      revert record member
      decide +kernel
  have kept :=
    run_keeps_lifecycle orderly (by decide +kernel) countable
  exact kept.2.1 [] _ rfl

end Simulation.Interleaving

end FileCleanup
