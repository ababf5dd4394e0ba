import FileCleanup.Proofs.Batch.WorkedOff
import FileCleanup.Proofs.Store.ClaimOrder

namespace FileCleanup

open Time Simulation

/-! What a whole batch leaves of a world when nothing else happens meanwhile:
its records, objects, deletes and counts as functions of what was there. -/

namespace FileRecord

/-- What a batch leaves of a record that it has claimed at `now`. -/
def afterBatch (faults : StoreFaults) (failingKeys : List String)
    (now : Instant) (record : FileRecord) : FileRecord :=
  if record.storageKey ∈ failingKeys then
    { record with
      claimedAt := some now
      updatedAt := now
      failedAttempts :=
        if faults.increment then record.failedAttempts
        else record.failedAttempts + 1 }
  else if record.id ∈ faults.softDelete then
    { record with claimedAt := some now, updatedAt := now }
  else
    { record with deletedAt := some now, claimedAt := none, updatedAt := now }

theorem workedOff_claimed {record : FileRecord} (live : record.Live)
    (faults : StoreFaults) (failingKeys : List String) (now : Instant) :
    (record.claimed now).workedOff faults failingKeys now =
      record.afterBatch faults failingKeys now := by
  have stillLive : (record.claimed now).Live := live
  unfold workedOff afterBatch
  by_cases failing : record.storageKey ∈ failingKeys
  · cases counted : faults.increment <;>
      simp [claimed, withFailedAttempt, failing]
  · by_cases faulty : record.id ∈ faults.softDelete
    · simp [claimed, failing, faulty]
    · simp only [softDeleted_of_live stillLive]
      simp [claimed, failing, faulty]

end FileRecord

/-- The files that a batch claims are worked on as they were leased. -/
private theorem map_workedOff {faults : StoreFaults}
    {failingKeys : List String} {now : Instant} {store : RecordStore}
    {chosen : List FileRecord}
    (eligible : ∀ record ∈ chosen,
      record ∈ store.records ∧ record.Claimable now) :
    (store.records.map fun record =>
        if record ∈ chosen then record.claimed now else record).map
      (fun record =>
        if record ∈ chosen.map (·.claimed now) then
          record.workedOff faults failingKeys now
        else record) =
      store.records.map fun record =>
        if record ∈ chosen then record.afterBatch faults failingKeys now
        else record := by
  rw [List.map_map]
  apply List.map_congr_left
  intro record member
  by_cases picked : record ∈ chosen
  · have leased : record.claimed now ∈ chosen.map (·.claimed now) :=
      List.mem_map_of_mem picked
    have worked := FileRecord.workedOff_claimed (eligible record picked).2.1
      faults failingKeys now
    simp only [Function.comp_apply, if_pos picked, if_pos leased, worked]
  · have other : record ∉ chosen.map (·.claimed now) := by
      intro claimed
      obtain ⟨candidate, candidateMember, same⟩ := List.mem_map.mp claimed
      have sameId : candidate.id = record.id := by rw [← same]; rfl
      have stored := (eligible candidate candidateMember).1
      rw [RecordStore.eq_of_mem_of_id_eq stored member sameId] at candidateMember
      exact picked candidateMember
    simp only [Function.comp_apply, if_neg picked, if_neg other]

/-- A batch from its claim on, when the claim succeeds. -/
theorem Simulation.World.run_claimed (settings : CleanupSettings)
    {world : World} {storage : MemoryStorage}
    (memory : world.objects = .memory storage)
    (undelayed : storage.delay = 0) (sound : world.faults.claim = false) :
    ∃ order after, ClaimOrder world.now world.store.records order ∧
      let chosen := order.take settings.batchSize.toNat
      Phase.run settings World.backend .claiming world =
          (.ok ⟨chosen.countP fun record =>
              record.Finishes world.faults storage.failingKeys,
            chosen.countP fun record =>
              ¬record.Finishes world.faults storage.failingKeys⟩,
            after) ∧
        after.now = world.now ∧ after.faults = world.faults ∧
        after.store.records = (world.store.records.map fun record =>
          if record ∈ chosen then
            record.afterBatch world.faults storage.failingKeys world.now
          else record) ∧
        after.objects = .memory (storage.without chosen) ∧
        after.journal.deletes.toList =
          world.journal.deletes.toList ++ chosen.map (·.address) := by
  obtain ⟨order, claims, takes⟩ := world.store.exists_claimOrder world.now
  obtain ⟨claimed, runs, beside, claimedStore⟩ :=
    World.run_claiming settings sound
  have records := congrArg RecordStore.records claimedStore
  rw [RecordStore.records_claim sound, takes] at records
  rw [takes] at runs
  let chosen := order.take settings.batchSize.toNat
  have eligible : ∀ record ∈ chosen,
      record ∈ world.store.records ∧ record.Claimable world.now :=
    fun record member => claims.mem_iff.mp (List.mem_of_mem_take member)
  have distinct : ((chosen.map (·.claimed world.now)).map (·.id)).Nodup := by
    rw [List.map_map]
    exact (claims.nodup_id world.store.distinct).sublist
      ((List.take_sublist ..).map _)
  have stored : ∀ file ∈ chosen.map (·.claimed world.now),
      file ∈ claimed.store.records := by
    intro file member
    obtain ⟨record, picked, rfl⟩ := List.mem_map.mp member
    rw [records]
    exact List.mem_map.mpr ⟨record, (eligible record picked).1, if_pos picked⟩
  obtain ⟨after, finishes, worked⟩ :=
    World.run_next settings (beside.objects.trans memory)
      undelayed distinct stored .none
  refine ⟨order, after, claims, ?_, worked.now.trans beside.now,
    worked.faults.trans beside.faults, ?_, ?_, ?_⟩
  · rw [runs, finishes, beside.faults, List.countP_map, List.countP_map]
    simp only [BatchResult.none, Nat.zero_add]
    rfl
  · rw [worked.records, records, beside.now, beside.faults]
    exact map_workedOff eligible
  · rw [worked.objects]
    simp only [MemoryStorage.without, List.map_map]
    rfl
  · rw [worked.deletes, beside.deletes, List.map_map]
    rfl

theorem runBatch_closed_form {settings : CleanupSettings} {world : World}
    {storage : MemoryStorage} {cutoff : Instant}
    (accepted : settings.validate = .ok ())
    (memory : world.objects = .memory storage) (undelayed : storage.delay = 0)
    (led : world.now.minus? settings.staleClaimAge = some cutoff) :
    let released := world.store.releasedRecords world.faults world.now cutoff
    ∃ outcome after,
      runBatch settings World.backend world = (outcome, after) ∧
      after.now = world.now ∧ after.faults = world.faults ∧
      if world.faults.claim then
        outcome =
            .error (.claim (.ofMessage StoreProblem.claimFailed.message)) ∧
          after.store.records = released ∧
          after.objects = world.objects ∧
          after.journal.deletes = world.journal.deletes
      else
        ∃ order, ClaimOrder world.now released order ∧
          let chosen := order.take settings.batchSize.toNat
          outcome =
              .ok ⟨chosen.countP fun record =>
                  record.Finishes world.faults storage.failingKeys,
                chosen.countP fun record =>
                  ¬record.Finishes world.faults storage.failingKeys⟩ ∧
            after.store.records = (released.map fun record =>
              if record ∈ chosen then
                record.afterBatch world.faults storage.failingKeys world.now
              else record) ∧
            after.objects = .memory (storage.without chosen) ∧
            after.journal.deletes.toList =
              world.journal.deletes.toList ++ chosen.map (·.address) := by
  intro released
  obtain ⟨middle, releases, besideRelease, releasedStore⟩ :=
    World.run_releasing settings world
  have releasedRecords : middle.store.records = released := by
    rw [releasedStore]
    exact RecordStore.records_release
      (CleanupSettings.inRange_staleClaimAge accepted) led
  by_cases faulty : world.faults.claim = true
  · have faultyToo : middle.faults.claim = true := besideRelease.faults ▸ faulty
    obtain ⟨after, claims, beside, store⟩ :=
      World.run_claiming_failed settings faultyToo
    have both := besideRelease.trans beside
    refine ⟨_, after, releases.trans claims, both.now, both.faults, ?_⟩
    rw [if_pos faulty]
    exact ⟨rfl, store ▸ releasedRecords, both.objects, both.deletes⟩
  · have sound : middle.faults.claim = false := by
      rw [besideRelease.faults]
      exact Bool.eq_false_iff.mpr faulty
    obtain ⟨order, after, claims, runs, now, faults, records, objects,
        deletes⟩ :=
      World.run_claimed settings (besideRelease.objects.trans memory) undelayed
        sound
    rw [releasedRecords, besideRelease.now] at claims
    rw [besideRelease.faults] at runs
    rw [releasedRecords, besideRelease.faults, besideRelease.now] at records
    rw [besideRelease.deletes] at deletes
    refine ⟨_, after, releases.trans runs, now.trans besideRelease.now,
      faults.trans besideRelease.faults, ?_⟩
    rw [if_neg faulty]
    exact ⟨order, claims, rfl, records, objects, deletes⟩

theorem runBatch_closed_form_sample :
    ∃ after, runBatch .standard World.backend Sample.world =
        (.ok ⟨1, 0⟩, after) ∧
      after.store.records =
        [Sample.expired.afterBatch .none [] .base, Sample.permanent] := by
  obtain ⟨outcome, after, runs, _, _, rest⟩ :=
    @runBatch_closed_form .standard Sample.world Sample.storage
      ⟨1704066900, 0, by decide, by decide⟩ rfl rfl rfl (by decide)
  rw [if_neg (by decide)] at rest
  obtain ⟨order, claims, rfl, records, _⟩ := rest
  have short : order.length ≤ CleanupSettings.standard.batchSize.toNat := by
    rw [claims.length_eq]
    decide
  rw [List.take_of_length_le short] at runs records
  rw [claims.perm.countP_eq, claims.perm.countP_eq] at runs
  refine ⟨after, runs, ?_⟩
  rw [records]
  simp only [claims.mem_iff]
  decide

end FileCleanup
