import FileCleanup.Proofs.Store.World

namespace FileCleanup

open Time Simulation

/-! A batch on a world that it has for itself, call by call. -/

/-- A backend that answers what `inner` does, and keeps notes besides. -/
structure Backend.Extends {State Notes : Type}
    (outer : Backend (State × Notes)) (inner : Backend State) : Prop where
  answer : ∀ call state notes, ∃ more, outer.answer call (state, notes) =
    ((inner.answer call state).1, (inner.answer call state).2, more)
  tell : ∀ event state notes,
    outer.tell event (state, notes) = (inner.tell event state, notes)

theorem Backend.Extends.tellAll {State Notes : Type}
    {outer : Backend (State × Notes)} {inner : Backend State}
    (keeps : outer.Extends inner) (events : List LogEvent) (state : State)
    (notes : Notes) :
    outer.tellAll events (state, notes) =
      (inner.tellAll events state, notes) := by
  induction events generalizing state with
  | nil => rfl
  | cons event events induction =>
      rw [Backend.tellAll, List.foldl_cons, keeps.tell]
      exact induction (inner.tell event state)

namespace Phase

variable {State : Type} {settings : CleanupSettings} {backend : Backend State}

theorem run_finished (settings : CleanupSettings) (backend : Backend State)
    (outcome : Except CleanupError BatchResult) (state : State) :
    run settings backend (.finished outcome) state = (outcome, state) := by
  rw [run]
  split
  · rename_i ends
    cases ends
    rfl
  · rename_i asks
    cases asks

theorem run_of_request {phase : Phase} {request : Request}
    (asks : phase.due settings = .inr request) (state : State) :
    run settings backend phase state =
      run settings backend (request.perform backend state).1
        (request.perform backend state).2 := by
  rw [run]
  split
  · rename_i ends
    rw [asks] at ends
    cases ends
  · rename_i other
    rw [asks] at other
    cases other
    rfl

/-- A batch goes the same way whether notes are kept of it or not. -/
theorem run_of_extends {Notes : Type} {outer : Backend (State × Notes)}
    (keeps : outer.Extends backend) {phase : Phase} {state after : State}
    {notes all : Notes} {outcome : Except CleanupError BatchResult}
    (runs : run settings outer phase (state, notes) = (outcome, after, all)) :
    run settings backend phase state = (outcome, after) := by
  fun_induction run settings backend phase state generalizing notes
  case case1 phase state result ends =>
      cases phase with
      | finished =>
          rw [run_finished] at runs
          cases ends
          cases runs
          rfl
      | _ => cases ends
  case case2 phase state request asks next induction =>
      obtain ⟨more, answers⟩ := keeps.answer request.call
        (backend.tellAll request.announced state) notes
      have performs : request.perform outer (state, notes) =
          (next.1, next.2, more) := by
        simp only [Request.perform, keeps.tellAll, answers, next]
      rw [run_of_request asks, performs] at runs
      exact induction runs

end Phase

namespace Simulation.World

variable (settings : CleanupSettings) {world : World}

theorem run_stored (world : World) (phase : Phase) {request : Phase.Request}
    (asks : phase.due settings = .inr request)
    (stored : ∀ bucket key, request.call ≠ .deleteObject bucket key) :
    ∃ after,
      Phase.run settings backend phase world =
        Phase.run settings backend (request.perform backend world).1 after ∧
      Beside world after ∧
      after.store =
        world.store.afterCall world.faults world.now request.call :=
  ⟨(request.perform backend world).2, Phase.run_of_request asks world,
    beside_perform request world stored, store_perform request world⟩

/-- The release makes its changes, and the batch goes on in either case. -/
theorem run_releasing (world : World) :
    ∃ released,
      Phase.run settings backend .releasing world =
        Phase.run settings backend .claiming released ∧
      Beside world released ∧
      released.store = world.store.afterCall world.faults world.now
        (.releaseStaleClaims settings.staleClaimAge) := by
  obtain ⟨released, runs, beside, store⟩ :=
    run_stored settings world .releasing rfl (by simp)
  refine ⟨released, ?_, beside, store⟩
  rw [runs]
  congr 1
  simp only [Phase.Request.perform]
  split <;> rfl

theorem run_claiming_failed (faulty : world.faults.claim = true) :
    ∃ after,
      Phase.run settings backend .claiming world =
        (.error (.claim (.ofMessage StoreProblem.claimFailed.message)),
          after) ∧
      Beside world after ∧ after.store = world.store := by
  obtain ⟨after, runs, beside, store⟩ :=
    run_stored settings world .claiming rfl (by simp)
  refine ⟨after, ?_, beside, ?_⟩
  · rw [runs, ← Phase.run_finished settings backend]
    congr 1
    simp [Phase.Request.perform, backend, answer_claimExpired,
      Backend.tellAll, faulty]
  · simp [store, RecordStore.afterCall, RecordStore.claimExpired, faulty]

theorem run_claiming (sound : world.faults.claim = false) :
    ∃ after,
      Phase.run settings backend .claiming world =
        Phase.run settings backend
          (Phase.next .none
            ((world.store.candidates world.now settings.batchSize).map
              (·.claimed world.now)))
          after ∧
      Beside world after ∧
      after.store = world.store.afterCall world.faults world.now
        (.claimExpired settings.batchSize) := by
  obtain ⟨after, runs, beside, store⟩ :=
    run_stored settings world .claiming rfl (by simp)
  refine ⟨after, ?_, beside, store⟩
  rw [runs]
  congr 1
  simp [Phase.Request.perform, backend, answer_claimExpired, Backend.tellAll,
    sound]

theorem run_recordingFailure (world : World) (file : FileRecord)
    (cause : StorageError) (rest : List FileRecord) (result : BatchResult) :
    ∃ after,
      Phase.run settings backend (.recordingFailure file cause rest result)
          world =
        Phase.run settings backend (Phase.next result.withFailed rest) after ∧
      Beside world after ∧
      after.store = world.store.afterCall world.faults world.now
        (.recordFailedAttempt file.id) :=
  run_stored settings world (.recordingFailure file cause rest result) rfl
    (by simp)

theorem run_finalizing (world : World) (file : FileRecord)
    (rest : List FileRecord) (result : BatchResult) :
    ∃ after,
      Phase.run settings backend (.finalizing file rest result) world =
        Phase.run settings backend
          (Phase.next
            (if file.id ∈ world.faults.softDelete then result.withFailed
              else result.withProcessed)
            rest)
          after ∧
      Beside world after ∧
      after.store = world.store.afterCall world.faults world.now
        (.softDelete file.id) := by
  obtain ⟨after, runs, beside, store⟩ :=
    run_stored settings world (.finalizing file rest result) rfl (by simp)
  refine ⟨after, ?_, beside, store⟩
  rw [runs]
  congr 1
  by_cases faulty : file.id ∈ world.faults.softDelete <;>
    simp [Phase.Request.perform, backend, answer, softDelete,
      RecordStore.softDelete, faulty, storeAnswer, reported, noteCall,
      Backend.tellAll, Except.map, Except.mapError]

theorem deleteObject_delayed {storage : MemoryStorage}
    (memory : world.objects = .memory storage) (bucket key : String) :
    world.deleteObject bucket key =
      ((storage.delete bucket key).1,
        { world with
          clock := world.clock + storage.delay
          objects := .memory (storage.delete bucket key).2
          journal.deletes := world.journal.deletes.push (bucket, key) }) := by
  simp [deleteObject, beginDelete, finishDelete, memory, ObjectStore.delay]

/-- A delete takes its time, and its answer decides what is next. -/
theorem perform_deleting {storage : MemoryStorage}
    (memory : world.objects = .memory storage) {file : FileRecord}
    {rest : List FileRecord} {result : BatchResult} {request : Phase.Request}
    (asks : (Phase.deleting file rest result).due settings = .inr request) :
    (request.perform backend world).1 =
        (if file.storageKey ∈ storage.failingKeys then
          .recordingFailure file
            (.deleteFailed ("simulated failure for " ++ file.storageKey))
            rest result
        else .finalizing file rest result) ∧
      Beside { world with
        clock := world.clock + storage.delay
        objects := .memory (storage.delete file.bucket file.storageKey).2
        journal.deletes := world.journal.deletes.push file.address }
        (request.perform backend world).2 ∧
      (request.perform backend world).2.store = world.store := by
  cases asks
  have told : (world.tell (.deletingFile file)).objects = .memory storage :=
    memory
  have deleted := deleteObject_delayed told file.bucket file.storageKey
  refine ⟨?_, ?_, ?_⟩
  · simp only [Phase.Request.perform, backend, Backend.tellAll, answer,
      List.foldl_cons, List.foldl_nil, deleted]
    by_cases failing : file.storageKey ∈ storage.failingKeys <;>
      simp [MemoryStorage.delete, failing]
  · change Beside _ (backend.tellAll _
      ((world.tell (.deletingFile file)).deleteObject file.bucket
        file.storageKey).2)
    refine Beside.trans ?_ (beside_tellAll _ _)
    rw [deleted]
    exact ⟨rfl, rfl, rfl, rfl, rfl⟩
  · change (backend.tellAll _ ((world.tell (.deletingFile file)).deleteObject
      file.bucket file.storageKey).2).store = _
    rw [store_tellAll, deleted]
    rfl

theorem run_deleting {storage : MemoryStorage}
    (memory : world.objects = .memory storage) (undelayed : storage.delay = 0)
    (file : FileRecord) (rest : List FileRecord) (result : BatchResult) :
    ∃ after,
      Phase.run settings backend (.deleting file rest result) world =
        Phase.run settings backend
          (if file.storageKey ∈ storage.failingKeys then
            .recordingFailure file
              (.deleteFailed ("simulated failure for " ++ file.storageKey))
              rest result
            else .finalizing file rest result)
          after ∧
      Beside { world with
        objects := .memory (storage.delete file.bucket file.storageKey).2
        journal.deletes := world.journal.deletes.push file.address } after ∧
      after.store = world.store := by
  have asks : (Phase.deleting file rest result).due settings = .inr _ := rfl
  obtain ⟨next, beside, store⟩ := perform_deleting settings memory asks
  rw [undelayed, Nat.add_zero] at beside
  rw [Phase.run_of_request asks, next]
  exact ⟨_, rfl, beside, store⟩

end Simulation.World

end FileCleanup
