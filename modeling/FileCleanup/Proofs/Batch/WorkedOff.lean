import FileCleanup.Proofs.Batch.Run
import FileCleanup.Proofs.Store.Records

namespace FileCleanup

open Time Simulation

/-! Working off the files that a batch has claimed. -/

namespace FileRecord

/-- Whether a batch gets done with a file that it has claimed. -/
def Finishes (faults : StoreFaults) (failingKeys : List String)
    (record : FileRecord) : Prop :=
  record.storageKey ∉ failingKeys ∧ record.id ∉ faults.softDelete

instance (faults : StoreFaults) (failingKeys : List String)
    (record : FileRecord) : Decidable (record.Finishes faults failingKeys) :=
  inferInstanceAs (Decidable (_ ∧ _))

/-- What the calls for a claimed file make of its record. -/
def workedOff (faults : StoreFaults) (failingKeys : List String)
    (now : Instant) (record : FileRecord) : FileRecord :=
  if record.storageKey ∈ failingKeys then
    if faults.increment then record else record.withFailedAttempt now
  else if record.id ∈ faults.softDelete then record
  else record.softDeleted now

@[simp] theorem id_workedOff (faults : StoreFaults) (failingKeys : List String)
    (now : Instant) (record : FileRecord) :
    (record.workedOff faults failingKeys now).id = record.id := by
  unfold workedOff
  split
  · split
    · rfl
    · exact id_withFailedAttempt now record
  · split
    · rfl
    · exact id_softDeleted now record

end FileRecord

theorem MemoryStorage.failingKeys_delete (storage : MemoryStorage) (bucket key : String) :
    (storage.delete bucket key).2.failingKeys = storage.failingKeys := by
  unfold delete
  split <;> rfl

theorem MemoryStorage.delay_delete (storage : MemoryStorage) (bucket key : String) :
    (storage.delete bucket key).2.delay = storage.delay := by
  unfold delete
  split <;> rfl

/-- What is left when the objects of some files are deleted. -/
def MemoryStorage.without (storage : MemoryStorage) (files : List FileRecord) :
    MemoryStorage :=
  { storage with
    objects := storage.objects.filter fun address =>
      address.2 ∈ storage.failingKeys ∨ address ∉ files.map (·.address) }

theorem MemoryStorage.delete_address (storage : MemoryStorage)
    (file : FileRecord) :
    (storage.delete file.bucket file.storageKey).2 = storage.without [file] := by
  unfold delete without
  split
  · rename_i failing
    have kept : storage.objects.filter (fun address =>
        address.2 ∈ storage.failingKeys ∨
          address ∉ [file].map (·.address)) = storage.objects := by
      apply List.filter_eq_self.mpr
      intro address _
      by_cases same : address = file.address
      · subst same
        simp [FileRecord.address, failing]
      · simp [same]
    rw [kept]
  · rename_i sound
    dsimp only
    congr 1
    apply List.filter_congr
    intro address _
    by_cases same : address = file.address
    · subst same
      simp [FileRecord.address, sound]
    · have different : address ≠ (file.bucket, file.storageKey) := same
      simp [different, FileRecord.address]

theorem MemoryStorage.without_cons (storage : MemoryStorage)
    (file : FileRecord) (rest : List FileRecord) :
    (storage.without [file]).without rest = storage.without (file :: rest) := by
  unfold without
  simp only [List.filter_filter]
  congr 1
  apply List.filter_congr
  intro address _
  by_cases failing : address.2 ∈ storage.failingKeys <;> grind

namespace Simulation

/-- What working off `files` makes of a world whose objects are in `storage`. -/
structure World.WorkedOff (storage : MemoryStorage) (files : List FileRecord)
    (before after : World) : Prop where
  origin : after.origin = before.origin
  clock : after.clock = before.clock
  faults : after.faults = before.faults
  records :
    after.store.records = before.store.records.map fun record =>
      if record ∈ files then
        record.workedOff before.faults storage.failingKeys before.now
      else record
  objects : after.objects = .memory (storage.without files)
  deletes :
    after.journal.deletes.toList =
      before.journal.deletes.toList ++ files.map (·.address)

namespace World

variable (settings : CleanupSettings) {storage : MemoryStorage}
  {world : World}

theorem WorkedOff.now {files : List FileRecord} {before after : World}
    (worked : WorkedOff storage files before after) :
    after.now = before.now := by
  rw [World.now, World.now, worked.origin, worked.clock]

theorem WorkedOff.nil (memory : world.objects = .memory storage) :
    WorkedOff storage [] world world where
  origin := rfl
  clock := rfl
  faults := rfl
  records := by simp
  objects := by simpa [MemoryStorage.without] using memory
  deletes := by simp

theorem WorkedOff.cons {file : FileRecord} {rest : List FileRecord}
    {before middle after : World}
    (distinct : ∀ other ∈ rest, other.id ≠ file.id)
    (first : WorkedOff storage [file] before middle)
    (others : WorkedOff (storage.without [file]) rest middle after) :
    WorkedOff storage (file :: rest) before after where
  origin := others.origin.trans first.origin
  clock := others.clock.trans first.clock
  faults := others.faults.trans first.faults
  records := by
    rw [others.records, first.records, List.map_map, first.faults, first.now]
    apply List.map_congr_left
    intro record _
    have done : file.workedOff before.faults storage.failingKeys before.now ∉
        rest := by
      intro member
      exact distinct _ member (FileRecord.id_workedOff ..)
    by_cases same : record = file
    · subst same
      simp [done]
    · simp [same, MemoryStorage.without]
  objects := by rw [others.objects, MemoryStorage.without_cons]
  deletes := by simp [others.deletes, first.deletes]

private theorem workedOff_single {file : FileRecord} {after : World}
    {next : FileRecord → FileRecord}
    (beside : Beside { world with
      objects := .memory (storage.delete file.bucket file.storageKey).2
      journal.deletes := world.journal.deletes.push file.address } after)
    (agrees : next file =
      file.workedOff world.faults storage.failingKeys world.now)
    (records : after.store.records = world.store.records.map fun record =>
      if record = file then next record else record) :
    WorkedOff storage [file] world after := by
  refine ⟨beside.origin, beside.clock, beside.faults, ?_, ?_, ?_⟩
  · rw [records]
    apply List.map_congr_left
    intro record _
    by_cases same : record = file
    · subst same
      simp [agrees]
    · simp [same]
  · rw [beside.objects, MemoryStorage.delete_address]
  · simp [beside.deletes]

theorem run_file (memory : world.objects = .memory storage)
    (undelayed : storage.delay = 0) {file : FileRecord}
    (member : file ∈ world.store.records) (rest : List FileRecord)
    (result : BatchResult) :
    ∃ after,
      Phase.run settings backend (.deleting file rest result) world =
        Phase.run settings backend
          (Phase.next
            (if file.Finishes world.faults storage.failingKeys then
              result.withProcessed
            else result.withFailed)
            rest)
          after ∧
      WorkedOff storage [file] world after := by
  obtain ⟨middle, deletes, besideDelete, storeDelete⟩ :=
    run_deleting settings memory undelayed file rest result
  rw [← storeDelete] at member
  by_cases failing : file.storageKey ∈ storage.failingKeys
  · rw [if_pos failing] at deletes
    obtain ⟨after, records, beside, store⟩ :=
      run_recordingFailure settings middle file _ rest result
    refine ⟨after, ?_, ?_⟩
    · rw [deletes, records, if_neg fun finishes => finishes.1 failing]
    · refine workedOff_single (besideDelete.trans beside) ?_
        (by rw [store, RecordStore.records_recordFailedAttempt member,
          storeDelete, besideDelete.faults, besideDelete.now])
      rw [FileRecord.workedOff, if_pos failing]
      rfl
  · rw [if_neg failing] at deletes
    obtain ⟨after, finalizes, beside, store⟩ :=
      run_finalizing settings middle file rest result
    refine ⟨after, ?_, ?_⟩
    · rw [deletes, finalizes, besideDelete.faults]
      by_cases faulty : file.id ∈ world.faults.softDelete <;>
        simp [FileRecord.Finishes, failing, faulty]
    · refine workedOff_single (besideDelete.trans beside) ?_
        (by rw [store, RecordStore.records_softDelete member, storeDelete,
          besideDelete.faults, besideDelete.now])
      rw [FileRecord.workedOff, if_neg failing]
      rfl

/-- A batch that has claimed `files` works them off one after the other. -/
theorem run_next {files : List FileRecord}
    (memory : world.objects = .memory storage) (undelayed : storage.delay = 0)
    (distinct : (files.map (·.id)).Nodup)
    (stored : ∀ file ∈ files, file ∈ world.store.records)
    (result : BatchResult) :
    ∃ after,
      Phase.run settings backend (Phase.next result files) world =
        (.ok
          ⟨result.processed + files.countP fun file =>
              file.Finishes world.faults storage.failingKeys,
            result.failed + files.countP fun file =>
              ¬file.Finishes world.faults storage.failingKeys⟩,
          after) ∧
      WorkedOff storage files world after := by
  induction files generalizing world storage result with
  | nil => exact ⟨world, by simp [Phase.next, Phase.run_finished], .nil memory⟩
  | cons file rest induction =>
      rw [List.map_cons, List.nodup_cons] at distinct
      have apart : ∀ other ∈ rest, other.id ≠ file.id := by
        intro other member same
        exact distinct.1 (List.mem_map.mpr ⟨other, member, same⟩)
      obtain ⟨middle, runs, worked⟩ :=
        run_file settings memory undelayed
          (stored file List.mem_cons_self) rest result
      have stillStored : ∀ other ∈ rest, other ∈ middle.store.records := by
        intro other member
        rw [worked.records]
        refine List.mem_map.mpr
          ⟨other, stored other (List.mem_cons_of_mem file member), ?_⟩
        have different : other ≠ file := fun same =>
          apart other member (congrArg FileRecord.id same)
        simp [different]
      obtain ⟨after, finishes, others⟩ :=
        induction worked.objects undelayed distinct.2 stillStored
          (if file.Finishes world.faults storage.failingKeys then
            result.withProcessed
          else result.withFailed)
      refine ⟨after, ?_, worked.cons apart others⟩
      change Phase.run settings backend (.deleting file rest result) world = _
      rw [runs, finishes, worked.faults]
      by_cases done : file.Finishes world.faults storage.failingKeys <;>
        simp [done, BatchResult.withProcessed, BatchResult.withFailed,
          MemoryStorage.without, Nat.add_assoc, Nat.add_comm 1]

end World

end Simulation

end FileCleanup
