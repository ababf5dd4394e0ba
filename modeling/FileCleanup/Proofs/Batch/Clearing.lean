import FileCleanup.Proofs.Batch.ClosedForm

namespace FileCleanup

open Time Simulation

/-! A batch that nothing keeps from its work clears all that is due, and the
batch after it finds nothing to do. -/

/-- What is left of a record when all that is due has been cleared. -/
def FileRecord.cleared (now : Instant) (record : FileRecord) : FileRecord :=
  if record.Due now then
    { record with deletedAt := some now, claimedAt := none, updatedAt := now }
  else record.unleased now

namespace FileRecord

theorem cleared_of_due {now : Instant} {record : FileRecord}
    (due : record.Due now) :
    record.cleared now =
      { record with
        deletedAt := some now, claimedAt := none, updatedAt := now } := by
  rw [cleared, if_pos due]

theorem cleared_of_not_live (now : Instant) {record : FileRecord}
    (deleted : ¬record.Live) : record.cleared now = record := by
  have notDue : ¬record.Due now := fun due => deleted due.1
  have notLeased : ¬record.Leased := fun leased => deleted leased.1
  rw [cleared, if_neg notDue, unleased, if_neg notLeased]

theorem not_leased_cleared (now : Instant) (record : FileRecord) :
    ¬(record.cleared now).Leased := by
  unfold cleared unleased
  split
  · exact fun leased => leased.2 rfl
  · split
    · exact fun leased => leased.2 rfl
    · assumption

theorem not_due_cleared (now : Instant) (record : FileRecord) :
    ¬(record.cleared now).Due now := by
  unfold cleared
  split
  · rintro ⟨live, _⟩
    cases live
  · rename_i notDue
    unfold unleased
    split
    · exact notDue
    · exact notDue

theorem afterBatch_unleased {now : Instant} {record : FileRecord}
    (due : record.Due now) :
    (record.unleased now).afterBatch .none [] now = record.cleared now := by
  rw [cleared_of_due due]
  unfold unleased
  split <;> simp [afterBatch, StoreFaults.none, released]

end FileRecord

namespace Simulation.World

theorem absent_without {storage : MemoryStorage} {files : List FileRecord}
    {bucket key : String}
    (absent : (ObjectStore.memory storage).holds bucket key = false) :
    (ObjectStore.memory (storage.without files)).holds bucket key = false := by
  have missing : (bucket, key) ∉ storage.objects := of_decide_eq_false absent
  exact decide_eq_false fun held => missing (List.mem_filter.mp held).1

theorem not_holds_without {storage : MemoryStorage} {files : List FileRecord}
    {bucket key : String} (unfailing : storage.failingKeys = [])
    (covered : (bucket, key) ∈ files.map (·.address)) :
    (ObjectStore.memory (storage.without files)).holds bucket key = false := by
  apply decide_eq_false
  intro held
  have kept := of_decide_eq_true (List.mem_filter.mp held).2
  rw [unfailing] at kept
  rcases kept with failing | apart
  · cases failing
  · exact apart covered

variable {settings : CleanupSettings} {world : World}

/-- A batch with room for all that is due, when nothing fails and every lease
is stale. -/
theorem runBatch_clears {storage : MemoryStorage}
    (accepted : settings.validate = .ok ())
    (memory : world.objects = .memory storage) (undelayed : storage.delay = 0)
    (unfailing : storage.failingKeys = []) (sound : world.faults = .none)
    (stale : ∀ record ∈ world.store.records, record.Leased →
      record.hasStaleClaim? world.now settings.staleClaimAge = some true)
    (room : (world.store.records.countP fun record => record.Due world.now) ≤
      settings.batchSize) :
    ∃ due after,
      runBatch settings backend world = (.ok ⟨due.length, 0⟩, after) ∧
      after.now = world.now ∧ after.faults = .none ∧
      after.store.records = world.store.records.map (·.cleared world.now) ∧
      after.objects = .memory (storage.without due) ∧
      ∀ record ∈ world.store.records, record.Due world.now →
        record.address ∈ due.map (·.address) := by
  obtain ⟨released, releases, beside, releasedStore⟩ :=
    run_releasing settings world
  have records : released.store.records =
      world.store.records.map (·.unleased world.now) := by
    rw [releasedStore]
    exact RecordStore.records_release_stale
      (CleanupSettings.inRange_staleClaimAge accepted)
      (by rw [sound]; rfl) stale
  obtain ⟨order, after, claims, runs, now, faults, cleared, objects, _⟩ :=
    run_claimed settings (beside.objects.trans memory) undelayed
      (by rw [beside.faults, sound]; rfl)
  rw [beside.now, records] at claims
  have fits : order.length ≤ settings.batchSize.toNat := by
    have length : order.length =
        world.store.records.countP fun record => record.Due world.now := by
      rw [claims.length_eq, ← List.countP_eq_length_filter, List.countP_map]
      simp only [Function.comp_def, FileRecord.claimable_unleased]
    omega
  rw [List.take_of_length_le fits] at runs cleared objects
  have mem_order {record : FileRecord} (member : record ∈ world.store.records) :
      record.unleased world.now ∈ order ↔ record.Due world.now := by
    rw [claims.mem_iff, FileRecord.claimable_unleased]
    exact and_iff_right (List.mem_map_of_mem member)
  refine ⟨order, after, ?_, now.trans beside.now, ?_, ?_, objects, ?_⟩
  · have finishes (record : FileRecord) :
        record.Finishes released.faults storage.failingKeys := by
      rw [beside.faults, sound, unfailing]
      exact ⟨List.not_mem_nil, List.not_mem_nil⟩
    rw [runBatch, releases, runs]
    simp [finishes]
  · rw [faults, beside.faults, sound]
  · rw [cleared, records, List.map_map, beside.now, beside.faults, sound,
      unfailing]
    apply List.map_congr_left
    intro record member
    simp only [Function.comp_apply, mem_order member]
    split
    · rename_i due
      exact FileRecord.afterBatch_unleased due
    · rename_i notDue
      rw [FileRecord.cleared, if_neg notDue]
  · intro record member due
    rw [← FileRecord.address_unleased world.now]
    exact List.mem_map_of_mem ((mem_order member).mpr due)

theorem runBatch_idle (sound : world.faults.claim = false)
    (idle : ∀ record ∈ world.store.records, ¬record.Leased)
    (spared : ∀ record ∈ world.store.records, ¬record.Due world.now)
    (settings : CleanupSettings) :
    (runBatch settings backend world).1 = .ok .none := by
  obtain ⟨released, releases, beside, releasedStore⟩ :=
    run_releasing settings world
  rw [RecordStore.afterCall_release_idle _ idle] at releasedStore
  rw [← beside.faults] at sound
  obtain ⟨after, claims, _⟩ := run_claiming settings sound
  have nothing :
      released.store.candidates released.now settings.batchSize = [] := by
    rw [releasedStore, beside.now, List.eq_nil_iff_forall_not_mem]
    intro record candidate
    obtain ⟨member, claimable⟩ := RecordStore.mem_candidates candidate
    exact spared record member claimable.due
  rw [runBatch, releases, claims, nothing]
  exact congrArg Prod.fst (Phase.run_finished _ _ (.ok .none) after)

end Simulation.World

end FileCleanup
