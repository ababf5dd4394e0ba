import FileCleanup.Proofs.Batch.Timed
import FileCleanup.Proofs.Batch.WorkedOff

namespace FileCleanup

open Time Simulation

/-! The files of a batch do not affect each other: two batches in worlds that
differ in what fails for other files, call by call beside each other. -/

namespace MemoryStorage

theorem holds_delete {storage : MemoryStorage}
    {bucket key place other : String} :
    (storage.delete bucket key).2.Holds place other ↔
      storage.Holds place other ∧
        ¬(key ∉ storage.failingKeys ∧ place = bucket ∧ other = key) := by
  unfold delete
  split
  · rename_i fails
    simp [fails]
  · rename_i sound
    simp only [Holds, List.mem_filter, ne_eq, Prod.mk.injEq,
      decide_eq_true_eq, sound, not_false_eq_true, true_and]

/-- Two stores that do the same for `file`. -/
structure Agree (file : FileRecord) (mine theirs : MemoryStorage) : Prop where
  delay : theirs.delay = mine.delay
  fails : file.storageKey ∈ theirs.failingKeys ↔
    file.storageKey ∈ mine.failingKeys
  holds : theirs.Holds file.bucket file.storageKey ↔
    mine.Holds file.bucket file.storageKey

/-- A delete of the same object does the same in both stores, and one of another
object does nothing to this one. -/
theorem Agree.delete {file : FileRecord} {mine theirs : MemoryStorage}
    (agree : Agree file mine theirs) (bucket key : String) :
    Agree file (mine.delete bucket key).2 (theirs.delete bucket key).2 := by
  refine ⟨?_, ?_, ?_⟩
  · rw [delay_delete, delay_delete, agree.delay]
  · rw [failingKeys_delete, failingKeys_delete, agree.fails]
  · rw [holds_delete, holds_delete, agree.holds]
    refine and_congr_right fun _ => not_congr ?_
    constructor
    · rintro ⟨sound, place, rfl⟩
      exact ⟨mt agree.fails.mpr sound, place, rfl⟩
    · rintro ⟨sound, place, rfl⟩
      exact ⟨mt agree.fails.mp sound, place, rfl⟩

end MemoryStorage

namespace Simulation.World

section Comes

variable (settings : CleanupSettings) {world : World}

theorem comes_finalizing (world : World) (file : FileRecord)
    (rest : List FileRecord) (result : BatchResult) :
    ∃ counted answer after,
      Comes settings (.finalizing file rest result) world
        [(world.now, ⟨.softDelete file.id, answer⟩)]
        (Phase.next counted rest) after ∧
      Beside world after ∧
      after.store = world.store.afterCall world.faults world.now
        (.softDelete file.id) := by
  obtain ⟨after, comes, beside, store⟩ :=
    comes_stored settings (.finalizing file rest result) rfl (by simp) world
  generalize Phase.Request.answered _ backend world = answer at comes
  cases answer with
  | ok => exact ⟨_, .ok (), after, comes, beside, store⟩
  | error cause => exact ⟨_, .error cause, after, comes, beside, store⟩

theorem comes_recordingFailure (world : World) (file : FileRecord)
    (cause : StorageError) (rest : List FileRecord) (result : BatchResult) :
    ∃ counted answer after,
      Comes settings (.recordingFailure file cause rest result) world
        [(world.now, ⟨.recordFailedAttempt file.id, answer⟩)]
        (Phase.next counted rest) after ∧
      Beside world after ∧
      after.store = world.store.afterCall world.faults world.now
        (.recordFailedAttempt file.id) := by
  obtain ⟨after, comes, beside, store⟩ := comes_stored settings
    (.recordingFailure file cause rest result) rfl (by simp) world
  exact ⟨_, _, after, comes, beside, store⟩

theorem comes_deleting {storage : MemoryStorage}
    (memory : world.objects = .memory storage) (file : FileRecord)
    (rest : List FileRecord) (result : BatchResult) :
    ∃ answer after,
      Comes settings (.deleting file rest result) world
        [(world.now, ⟨.deleteObject file.bucket file.storageKey, answer⟩)]
        (if file.storageKey ∈ storage.failingKeys then
          .recordingFailure file
            (.deleteFailed ("simulated failure for " ++ file.storageKey))
            rest result
        else .finalizing file rest result)
        after ∧
      Beside { world with
        clock := world.clock + storage.delay
        objects := .memory (storage.delete file.bucket file.storageKey).2
        journal.deletes := world.journal.deletes.push file.address } after ∧
      after.store = world.store := by
  have asks : (Phase.deleting file rest result).due settings = .inr _ := rfl
  obtain ⟨next, beside, store⟩ := perform_deleting settings memory asks
  have comes := comes_request settings asks world
  rw [next] at comes
  exact ⟨_, _, comes, beside, store⟩

/-- The deletes that were asked for, with their instants. -/
def deletions (log : List (Instant × Exchange)) :
    List (Instant × String × String) :=
  log.filterMap fun entry =>
    match entry.2.call with
    | .deleteObject bucket key => some (entry.1, bucket, key)
    | _ => none

@[simp] theorem deletions_append (earlier later : List (Instant × Exchange)) :
    deletions (earlier ++ later) = deletions earlier ++ deletions later :=
  List.filterMap_append

/-- What handling `file` makes of a world whose objects are in `storage`. -/
structure Handled (storage : MemoryStorage) (file : FileRecord)
    (before after : World) : Prop where
  origin : after.origin = before.origin
  clock : after.clock = before.clock + storage.delay
  faults : after.faults = before.faults
  objects : after.objects =
    .memory (storage.delete file.bucket file.storageKey).2
  store : after.store = before.store.afterCall before.faults after.now
    (if file.storageKey ∈ storage.failingKeys then
      .recordFailedAttempt file.id
    else .softDelete file.id)

theorem comes_handling {storage : MemoryStorage}
    (memory : world.objects = .memory storage) (file : FileRecord)
    (rest : List FileRecord) (result : BatchResult) :
    ∃ counted after said,
      Comes settings (.deleting file rest result) world said
        (Phase.next counted rest) after ∧
      Handled storage file world after ∧
      deletions said = [(world.now, file.address)] := by
  obtain ⟨answer, middle, deletes, besideDelete, storeDelete⟩ :=
    comes_deleting settings memory file rest result
  have handled {call : Call} {after : World} (beside : Beside middle after)
      (store : after.store =
        middle.store.afterCall middle.faults middle.now call)
      (closes : (if file.storageKey ∈ storage.failingKeys then
        Call.recordFailedAttempt file.id else .softDelete file.id) = call) :
      Handled storage file world after := by
    have both := besideDelete.trans beside
    refine ⟨both.origin, both.clock, both.faults, both.objects, ?_⟩
    rw [store, closes, storeDelete, besideDelete.faults, beside.now]
  by_cases failing : file.storageKey ∈ storage.failingKeys
  · rw [if_pos failing] at deletes
    obtain ⟨counted, other, after, comes, beside, store⟩ :=
      comes_recordingFailure settings middle file _ rest result
    exact ⟨counted, after, _, deletes.trans comes,
      handled beside store (if_pos failing), rfl⟩
  · rw [if_neg failing] at deletes
    obtain ⟨counted, other, after, comes, beside, store⟩ :=
      comes_finalizing settings middle file rest result
    exact ⟨counted, after, _, deletes.trans comes,
      handled beside store (if_neg failing), rfl⟩

end Comes

/-- Two worlds that are the same for `file`, whatever has become of other
files. -/
structure Agree (file : FileRecord) (left right : World) : Prop where
  origin : right.origin = left.origin
  clock : right.clock = left.clock
  increment : right.faults.increment = left.faults.increment
  softDelete : file.id ∈ right.faults.softDelete ↔
    file.id ∈ left.faults.softDelete
  record : right.store.get? file.id = left.store.get? file.id
  objects : ∃ mine theirs, left.objects = .memory mine ∧
    right.objects = .memory theirs ∧ MemoryStorage.Agree file mine theirs

section Agree

variable {file other : FileRecord} {left right leftAfter rightAfter : World}
  {mine theirs : MemoryStorage}

theorem Agree.now (agree : Agree file left right) : right.now = left.now := by
  rw [World.now, World.now, agree.origin, agree.clock]

theorem Handled.get?_of_ne (handled : Handled mine other left leftAfter)
    (different : file.id ≠ other.id) :
    leftAfter.store.get? file.id = left.store.get? file.id := by
  rw [handled.store]
  split
  · rw [RecordStore.get?_recordFailedAttempt, if_neg]
    exact fun same => different same.1
  · rw [RecordStore.get?_softDelete, if_neg]
    exact fun same => different same.1

/-- Handling a file keeps two worlds the same for another one, even if its own
delete fails in one of them only. -/
theorem Agree.handled (agree : Agree file left right)
    (stores : MemoryStorage.Agree file mine theirs)
    (alone : other.id = file.id → other = file)
    (leftHandled : Handled mine other left leftAfter)
    (rightHandled : Handled theirs other right rightAfter) :
    Agree file leftAfter rightAfter := by
  have clock : rightAfter.clock = leftAfter.clock := by
    rw [rightHandled.clock, leftHandled.clock, agree.clock, stores.delay]
  have origin : rightAfter.origin = leftAfter.origin := by
    rw [rightHandled.origin, leftHandled.origin, agree.origin]
  have now : rightAfter.now = leftAfter.now := by
    rw [World.now, World.now, origin, clock]
  refine ⟨origin, clock, ?_, ?_, ?_, _, _, leftHandled.objects,
    rightHandled.objects, stores.delete _ _⟩
  · rw [rightHandled.faults, leftHandled.faults, agree.increment]
  · rw [rightHandled.faults, leftHandled.faults, agree.softDelete]
  · by_cases same : other.id = file.id
    · cases alone same
      rw [rightHandled.store, leftHandled.store, now]
      by_cases failing : file.storageKey ∈ mine.failingKeys
      · rw [if_pos failing, if_pos (stores.fails.mpr failing),
          RecordStore.get?_recordFailedAttempt,
          RecordStore.get?_recordFailedAttempt, agree.increment, agree.record]
      · rw [if_neg failing, if_neg (mt stores.fails.mp failing),
          RecordStore.get?_softDelete, RecordStore.get?_softDelete,
          agree.record]
        simp only [agree.softDelete]
    · rw [rightHandled.get?_of_ne (Ne.symm same),
        leftHandled.get?_of_ne (Ne.symm same), agree.record]

/-- Two batches handle the same files beside each other, and delete the same
objects at the same instants, whatever the deletes come to. -/
theorem Agree.comes_next (settings : CleanupSettings)
    {files : List FileRecord}
    (alone : ∀ other ∈ files, other.id = file.id → other = file)
    (agree : Agree file left right) (leftResult rightResult : BatchResult) :
    ∃ leftOutcome leftAfter leftSaid rightOutcome rightAfter rightSaid,
      Comes settings (Phase.next leftResult files) left leftSaid
        (.finished leftOutcome) leftAfter ∧
      Comes settings (Phase.next rightResult files) right rightSaid
        (.finished rightOutcome) rightAfter ∧
      Agree file leftAfter rightAfter ∧
      deletions rightSaid = deletions leftSaid := by
  induction files generalizing left right leftResult rightResult with
  | nil =>
      exact ⟨_, left, [], _, right, [], comes_refl settings _ left,
        comes_refl settings _ right, agree, rfl⟩
  | cons other rest induction =>
      obtain ⟨mine, theirs, leftMemory, rightMemory, stores⟩ := agree.objects
      obtain ⟨leftCounted, leftMiddle, leftSaid, leftComes, leftHandled,
        leftDeletes⟩ :=
        comes_handling settings leftMemory other rest leftResult
      obtain ⟨rightCounted, rightMiddle, rightSaid, rightComes, rightHandled,
        rightDeletes⟩ :=
        comes_handling settings rightMemory other rest rightResult
      have onward := agree.handled stores (alone other List.mem_cons_self)
        leftHandled rightHandled
      obtain ⟨leftOutcome, leftAfter, leftMore, rightOutcome, rightAfter,
        rightMore, leftEnds, rightEnds, agreeAfter, same⟩ :=
        induction
          (fun next member => alone next (List.mem_cons_of_mem _ member))
          onward leftCounted rightCounted
      refine ⟨leftOutcome, leftAfter, leftSaid ++ leftMore, rightOutcome,
        rightAfter, rightSaid ++ rightMore, leftComes.trans leftEnds,
        rightComes.trans rightEnds, agreeAfter, ?_⟩
      rw [deletions_append, deletions_append, leftDeletes, rightDeletes, same,
        agree.now]

end Agree

/-- The same world, but other deletes fail: those of the objects under `keys`
and of the records `ids`. -/
def withFailures (world : World) (storage : MemoryStorage)
    (keys : List String) (ids : List Uuid) : World :=
  { world with
    faults.softDelete := ids
    objects := .memory { storage with failingKeys := keys } }

/-- The files of a batch do not affect each other.  Two batches that start from
the same stores, and differ at most in what fails for other files than `file`,
claim the same files and delete the same objects at the same instants, however
long deletes take, and leave its record and its object the same. -/
theorem claimed_files_independent (settings : CleanupSettings) {world : World}
    {storage : MemoryStorage} (memory : world.objects = .memory storage)
    {files : List FileRecord} (claims : world.claimed settings = .ok files)
    {file : FileRecord} (member : file ∈ files) {keys : List String}
    {ids : List Uuid}
    (sameKey : file.storageKey ∈ keys ↔ file.storageKey ∈ storage.failingKeys)
    (sameId : file.id ∈ ids ↔ file.id ∈ world.faults.softDelete) :
    let other := world.withFailures storage keys ids
    ∃ left leftSaid right rightSaid,
      Claims settings world files leftSaid left ∧
      Claims settings other files rightSaid right ∧
      deletions rightSaid = deletions leftSaid ∧
      right.store.get? file.id = left.store.get? file.id ∧
      right.objects.holds file.bucket file.storageKey =
        left.objects.holds file.bucket file.storageKey := by
  intro other
  have otherClaims : other.claimed settings = .ok files := by
    rw [← claims, claimed_eq, claimed_eq]
    rfl
  obtain ⟨leftReleased, leftStart, leftOpens, leftBeside, leftStore⟩ :=
    comes_claimed settings claims
  obtain ⟨rightReleased, rightStart, rightOpens, rightBeside, rightStore⟩ :=
    comes_claimed settings otherClaims
  have stores : rightStart.store = leftStart.store := by
    rw [rightStore, leftStore]
    rfl
  have agree : Agree file leftStart rightStart := by
    refine ⟨?_, ?_, ?_, ?_, by rw [stores], storage,
      { storage with failingKeys := keys }, leftBeside.objects.trans memory,
      rightBeside.objects, rfl, sameKey, Iff.rfl⟩
    · rw [rightBeside.origin, leftBeside.origin]
      rfl
    · rw [rightBeside.clock, leftBeside.clock]
      rfl
    · rw [rightBeside.faults, leftBeside.faults]
      rfl
    · rw [rightBeside.faults, leftBeside.faults]
      exact sameId
  obtain ⟨leftOutcome, left, leftSaid, rightOutcome, right, rightSaid,
    leftComes, rightComes, agreeAfter, same⟩ :=
    agree.comes_next settings
      (fun _ others => eq_of_claimed settings claims others member) .none .none
  refine ⟨left, leftSaid, right, rightSaid, (leftOpens.trans leftComes).claims,
    (rightOpens.trans rightComes).claims, same, agreeAfter.record, ?_⟩
  obtain ⟨mine, theirs, leftMemory, rightMemory, agrees⟩ := agreeAfter.objects
  rw [leftMemory, rightMemory]
  exact decide_eq_decide.mpr agrees.holds

/-- Whether the first delete fails makes no difference to the second file. -/
theorem claimed_files_independent_sample :
    let other := Sample.pair.withFailures Sample.slowStorage ["a.txt"] []
    (runBatch .standard backend other).2.store.get? Sample.late.id =
      (runBatch .standard backend Sample.pair).2.store.get?
        Sample.late.id := by
  have fresh : Fresh .standard Sample.pair := by
    unfold Fresh
    decide
  have claims := claimed_of_fresh .standard rfl fresh Sample.claimOrder_pair
  have sameKey : Sample.late.storageKey ∈ ["a.txt"] ↔
      Sample.late.storageKey ∈ Sample.slowStorage.failingKeys := by decide
  have sameId : Sample.late.id ∈ [] ↔
      Sample.late.id ∈ Sample.pair.faults.softDelete := by decide
  have member : Sample.late.claimed Sample.pair.now ∈
      ([Sample.expired, Sample.late].take
        CleanupSettings.standard.batchSize.toNat).map
          (·.claimed Sample.pair.now) :=
    List.mem_cons_of_mem _ List.mem_cons_self
  obtain ⟨left, _, right, _, ⟨_, _, leftRuns, _⟩, ⟨_, _, rightRuns, _⟩, _,
    same, _⟩ := claimed_files_independent .standard rfl claims member sameKey
      sameId
  intro other
  rw [leftRuns, rightRuns]
  exact same

end Simulation.World

end FileCleanup
