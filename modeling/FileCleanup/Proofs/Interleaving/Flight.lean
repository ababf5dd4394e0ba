import FileCleanup.Proofs.Store.Records
import FileCleanup.Proofs.Store.World
import FileCleanup.Simulation.Interleaving

namespace FileCleanup.Simulation

open Time

/-! One step of one batch: which call it makes, what that does to the stores,
and which files the batch has in hand afterwards. -/

namespace World

/-- The objects of a world are kept in memory. -/
def InMemory (world : World) : Prop :=
  ∃ storage, world.objects = .memory storage

variable {world : World} {bucket key otherBucket otherKey : String}

theorem holds_memory {storage : MemoryStorage} :
    (ObjectStore.memory storage).holds bucket key ↔
      (bucket, key) ∈ storage.objects :=
  decide_eq_true_iff

theorem InMemory.finishDelete (memory : world.InMemory) :
    (world.finishDelete bucket key).2.InMemory := by
  obtain ⟨storage, objects⟩ := memory
  simp [World.finishDelete, objects, InMemory]

theorem InMemory.of_objects_eq (memory : world.InMemory) {other : World}
    (same : other.objects = world.objects) : other.InMemory := by
  obtain ⟨storage, objects⟩ := memory
  exact ⟨storage, same.trans objects⟩

theorem objects_beginDelete (world : World) (bucket key : String) :
    (world.beginDelete bucket key).objects = world.objects := by
  unfold beginDelete
  split <;> rfl

theorem deletes_beginDelete (memory : world.InMemory) (bucket key : String) :
    (world.beginDelete bucket key).journal.deletes =
      world.journal.deletes.push (bucket, key) := by
  obtain ⟨storage, objects⟩ := memory
  simp [beginDelete, objects]

theorem deletes_finishDelete (memory : world.InMemory) (bucket key : String) :
    (world.finishDelete bucket key).2.journal.deletes =
      world.journal.deletes := by
  obtain ⟨storage, objects⟩ := memory
  simp [World.finishDelete, objects]

theorem holds_of_holds_finishDelete (memory : world.InMemory)
    (held :
      (world.finishDelete bucket key).2.objects.holds otherBucket otherKey) :
    world.objects.holds otherBucket otherKey := by
  obtain ⟨storage, objects⟩ := memory
  simp only [World.finishDelete, objects, MemoryStorage.delete] at held ⊢
  split at held
  · exact held
  · rw [holds_memory] at held ⊢
    exact (List.mem_filter.mp held).1

theorem holds_finishDelete_of_ne (memory : world.InMemory)
    (different : (otherBucket, otherKey) ≠ (bucket, key))
    (held : world.objects.holds otherBucket otherKey) :
    (world.finishDelete bucket key).2.objects.holds otherBucket otherKey := by
  obtain ⟨storage, objects⟩ := memory
  simp only [World.finishDelete, objects, MemoryStorage.delete] at held ⊢
  split
  · exact held
  · rw [holds_memory] at held ⊢
    exact List.mem_filter.mpr ⟨held, decide_eq_true different⟩

theorem not_holds_finishDelete (memory : world.InMemory)
    (deleted : (world.finishDelete bucket key).1 = .ok ()) :
    (world.finishDelete bucket key).2.objects.holds bucket key = false := by
  obtain ⟨storage, objects⟩ := memory
  simp only [World.finishDelete, objects, MemoryStorage.delete] at deleted ⊢
  split at deleted
  · cases deleted
  · rename_i sound
    simp [sound, ObjectStore.holds, MemoryStorage.Holds]

end World

namespace Stage

@[simp] theorem files_next (result : BatchResult) (files : List FileRecord) :
    (Stage.between (Phase.next result files)).files = files := by
  cases files <;> rfl

end Stage

namespace Flight

variable {flight : Flight} {world : World}

/-- The call that a batch makes next; the end of a delete is none. -/
def call? (flight : Flight) : Option Call :=
  match flight.stage with
  | .between phase =>
    match phase.due flight.settings with
    | .inl _ => none
    | .inr request => some request.call
  | .deleting _ _ _ => none

theorem mem_files_of_call? {id : Uuid}
    (calls : flight.call? = some (.recordFailedAttempt id) ∨
      flight.call? = some (.softDelete id)) :
    ∃ file ∈ flight.stage.files, id = file.id := by
  obtain ⟨settings, stage⟩ := flight
  cases stage with
  | deleting file rest result => simp [call?] at calls
  | between phase =>
      cases phase <;> simp_all [call?, Phase.due, Stage.files]

theorem finalizing_of_call? {id : Uuid}
    (calls : flight.call? = some (.softDelete id)) :
    ∃ file rest result,
      flight.stage = .between (.finalizing file rest result) ∧
        id = file.id := by
  obtain ⟨settings, stage⟩ := flight
  cases stage with
  | deleting file rest result => cases calls
  | between phase =>
      cases phase <;> simp_all [call?, Phase.due]

theorem releasing_of_call? {age : Span}
    (calls : flight.call? = some (.releaseStaleClaims age)) :
    flight.stage = .between .releasing := by
  obtain ⟨settings, stage⟩ := flight
  cases stage with
  | deleting file rest result => cases calls
  | between phase => cases phase <;> simp_all [call?, Phase.due]

theorem claiming_of_call? {limit : Int}
    (calls : flight.call? = some (.claimExpired limit)) :
    flight.stage = .between .claiming := by
  obtain ⟨settings, stage⟩ := flight
  cases stage with
  | deleting file rest result => cases calls
  | between phase => cases phase <;> simp_all [call?, Phase.due]

/-- What a batch can be about to do. -/
inductive Situation : Flight → Prop
  | calls {settings : CleanupSettings} {phase : Phase} {request : Phase.Request}
      (asks : phase.due settings = .inr request)
      (stored : ∀ bucket key, request.call ≠ .deleteObject bucket key) :
      Situation ⟨settings, .between phase⟩
  | begins (settings : CleanupSettings) (file : FileRecord)
      (rest : List FileRecord) (result : BatchResult) :
      Situation ⟨settings, .between (.deleting file rest result)⟩
  | ends (settings : CleanupSettings) (file : FileRecord)
      (rest : List FileRecord) (result : BatchResult) :
      Situation ⟨settings, .deleting file rest result⟩
  | done (settings : CleanupSettings)
      (outcome : Except CleanupError BatchResult) :
      Situation ⟨settings, .between (.finished outcome)⟩

theorem situation (flight : Flight) : flight.Situation := by
  obtain ⟨settings, stage⟩ := flight
  cases stage with
  | deleting file rest result => exact .ends ..
  | between phase =>
      cases phase with
      | releasing => exact .calls rfl (by simp)
      | claiming => exact .calls rfl (by simp)
      | deleting file rest result => exact .begins ..
      | recordingFailure file cause rest result => exact .calls rfl (by simp)
      | finalizing file rest result => exact .calls rfl (by simp)
      | finished outcome => exact .done ..

theorem step_of_request {settings : CleanupSettings} {phase : Phase}
    {request : Phase.Request} (asks : phase.due settings = .inr request)
    (stored : ∀ bucket key, request.call ≠ .deleteObject bucket key)
    (world : World) :
    step ⟨settings, .between phase⟩ world =
      (⟨settings, .between (request.perform World.backend world).1⟩,
        (request.perform World.backend world).2) := by
  cases phase with
  | deleting file rest result =>
      cases asks
      exact absurd rfl (stored _ _)
  | releasing => cases asks; rfl
  | claiming => cases asks; rfl
  | recordingFailure file cause rest result => cases asks; rfl
  | finalizing file rest result => cases asks; rfl
  | finished outcome => cases asks

theorem objects_step_begins (settings : CleanupSettings) (file : FileRecord)
    (rest : List FileRecord) (result : BatchResult) (world : World) :
    (step ⟨settings, .between (.deleting file rest result)⟩ world).2.objects =
      world.objects :=
  World.objects_beginDelete ..

theorem store_step (flight : Flight) (world : World) :
    (flight.step world).2.store =
      match flight.call? with
      | some call => world.store.afterCall world.faults world.now call
      | none => world.store := by
  cases flight.situation with
  | calls asks stored =>
      rw [step_of_request asks stored, World.store_perform]
      simp [call?, asks]
  | begins settings file rest result => exact World.store_beginDelete ..
  | ends settings file rest result => exact World.store_finishDelete ..
  | done settings outcome => rfl

/-- What a step makes of the stage of a batch, between the worlds before and
after it. -/
inductive Onward (world after : World) : Stage → Stage → Prop
  | released : Onward world after (.between .releasing) (.between .claiming)
  | refused (cause : Report) :
      Onward world after (.between .claiming)
        (.between (.finished (.error (.claim cause))))
  | claimed {files : List FileRecord}
      (leased : ∀ file ∈ files, file ∈ after.store.records ∧
        ∃ record ∈ world.store.records,
          record.Claimable world.now ∧ file = record.claimed world.now) :
      Onward world after (.between .claiming)
        (.between (Phase.next .none files))
  | began (file : FileRecord) (rest : List FileRecord) (result : BatchResult) :
      Onward world after (.between (.deleting file rest result))
        (.deleting file rest result)
  | deleted {file : FileRecord} (rest : List FileRecord) (result : BatchResult)
      (gone : after.objects.holds file.bucket file.storageKey = false) :
      Onward world after (.deleting file rest result)
        (.between (.finalizing file rest result))
  | refrained (file : FileRecord) (rest : List FileRecord)
      (result : BatchResult) (cause : StorageError) :
      Onward world after (.deleting file rest result)
        (.between (.recordingFailure file cause rest result))
  | gaveUp (file : FileRecord) (cause : StorageError)
      (rest : List FileRecord) (result : BatchResult) :
      Onward world after (.between (.recordingFailure file cause rest result))
        (.between (Phase.next result.withFailed rest))
  | finalized (file : FileRecord) (rest : List FileRecord)
      (result counted : BatchResult) :
      Onward world after (.between (.finalizing file rest result))
        (.between (Phase.next counted rest))
  | finished (outcome : Except CleanupError BatchResult) :
      Onward world after (.between (.finished outcome))
        (.between (.finished outcome))

private theorem onward_claiming (settings : CleanupSettings) :
    Onward world (step ⟨settings, .between .claiming⟩ world).2
      (.between .claiming)
      (step ⟨settings, .between .claiming⟩ world).1.stage := by
  have store := store_step ⟨settings, .between .claiming⟩ world
  by_cases faulty : world.faults.claim = true
  · have refuses :
        (step ⟨settings, .between .claiming⟩ world).1.stage =
          .between (.finished
            (.error (.claim (.ofMessage StoreProblem.claimFailed.message)))) := by
      simp [step, Phase.step, Phase.due, Phase.Request.perform, World.backend,
        World.answer_claimExpired, Backend.tellAll, faulty]
    rw [refuses]
    exact .refused _
  · have sound : world.faults.claim = false := Bool.eq_false_iff.mpr faulty
    have claims :
        (step ⟨settings, .between .claiming⟩ world).1.stage =
          .between (Phase.next .none
            ((world.store.candidates world.now settings.batchSize).map
              (·.claimed world.now))) := by
      simp [step, Phase.step, Phase.due, Phase.Request.perform, World.backend,
        World.answer_claimExpired, Backend.tellAll, sound]
    rw [claims]
    refine .claimed ?_
    intro file member
    obtain ⟨record, candidate, rfl⟩ := List.mem_map.mp member
    obtain ⟨stored, claimable⟩ := RecordStore.mem_candidates candidate
    refine ⟨?_, record, stored, claimable, rfl⟩
    have records := congrArg RecordStore.records store
    simp only [call?, Phase.due] at records
    rw [RecordStore.records_claim sound] at records
    rw [records]
    exact List.mem_map.mpr ⟨record, stored, if_pos candidate⟩

theorem onward (memory : world.InMemory) (flight : Flight) :
    Onward world (flight.step world).2 flight.stage
      (flight.step world).1.stage := by
  obtain ⟨settings, stage⟩ := flight
  cases stage with
  | deleting file rest result =>
      simp only [step]
      cases answer : (world.finishDelete file.bucket file.storageKey).1 with
      | ok =>
          exact .deleted rest result (World.not_holds_finishDelete memory answer)
      | error cause => exact .refrained file rest result cause
  | between phase =>
      cases phase with
      | releasing =>
          have claiming : (step ⟨settings, .between .releasing⟩ world).1.stage =
              .between .claiming := by
            simp only [step, Phase.step, Phase.due, Phase.Request.perform]
            split <;> rfl
          rw [claiming]
          exact .released
      | claiming => exact onward_claiming settings
      | deleting file rest result => exact .began file rest result
      | recordingFailure file cause rest result =>
          exact .gaveUp file cause rest result
      | finalizing file rest result =>
          have counts : ∃ counted,
              (step ⟨settings, .between (.finalizing file rest result)⟩
                world).1.stage = .between (Phase.next counted rest) := by
            simp only [step, Phase.step, Phase.due, Phase.Request.perform]
            split <;> exact ⟨_, rfl⟩
          obtain ⟨counted, stage⟩ := counts
          rw [stage]
          exact .finalized file rest result counted
      | finished outcome => exact .finished outcome

/-- A file in hand after a step was in hand before it, or has just been
claimed. -/
theorem Onward.mem_files {world after : World} {before later : Stage}
    (onward : Onward world after before later) {file : FileRecord}
    (member : file ∈ later.files) :
    file ∈ before.files ∨
      before = .between .claiming ∧ file ∈ after.store.records ∧
        ∃ record ∈ world.store.records,
          record.Claimable world.now ∧ file = record.claimed world.now := by
  cases onward with
  | released => cases member
  | refused cause => cases member
  | claimed leased =>
      rw [Stage.files_next] at member
      exact .inr ⟨rfl, leased file member⟩
  | began => exact .inl member
  | deleted => exact .inl member
  | refrained => exact .inl member
  | gaveUp =>
      rw [Stage.files_next] at member
      exact .inl (List.mem_cons_of_mem _ member)
  | finalized =>
      rw [Stage.files_next] at member
      exact .inl (List.mem_cons_of_mem _ member)
  | finished => cases member

theorem Onward.gone {world after : World} {before later : Stage}
    (onward : Onward world after before later) {file : FileRecord}
    {rest : List FileRecord} {result : BatchResult}
    (finalizing : later = .between (.finalizing file rest result)) :
    after.objects.holds file.bucket file.storageKey = false := by
  have takesUp (counted : BatchResult) (files : List FileRecord) :
      Stage.between (Phase.next counted files) ≠
        .between (.finalizing file rest result) := by
    cases files <;> nofun
  cases onward with
  | deleted _ _ gone => cases finalizing; exact gone
  | claimed => exact absurd finalizing (takesUp _ _)
  | gaveUp => exact absurd finalizing (takesUp _ _)
  | finalized => exact absurd finalizing (takesUp _ _)
  | _ => cases finalizing

variable (memory : world.InMemory)
include memory

theorem inMemory_step (flight : Flight) : (flight.step world).2.InMemory := by
  cases flight.situation with
  | calls asks stored =>
      rw [step_of_request asks stored]
      exact memory.of_objects_eq (World.beside_perform _ _ stored).objects
  | begins settings file rest result =>
      exact memory.of_objects_eq (objects_step_begins ..)
  | ends settings file rest result => exact memory.finishDelete
  | done settings outcome => exact memory

theorem holds_of_holds_step {bucket key : String} (flight : Flight)
    (held : (flight.step world).2.objects.holds bucket key) :
    world.objects.holds bucket key := by
  cases flight.situation with
  | calls asks stored =>
      rw [step_of_request asks stored,
        (World.beside_perform _ _ stored).objects] at held
      exact held
  | begins settings file rest result =>
      rw [objects_step_begins] at held
      exact held
  | ends settings file rest result =>
      exact World.holds_of_holds_finishDelete memory held
  | done settings outcome => exact held

theorem holds_step {bucket key : String} (flight : Flight)
    (other : ∀ file ∈ flight.stage.files, file.address ≠ (bucket, key))
    (held : world.objects.holds bucket key) :
    (flight.step world).2.objects.holds bucket key := by
  cases flight.situation with
  | calls asks stored =>
      rw [step_of_request asks stored,
        (World.beside_perform _ _ stored).objects]
      exact held
  | begins settings file rest result =>
      rw [objects_step_begins]
      exact held
  | ends settings file rest result =>
      have different := other file List.mem_cons_self
      exact World.holds_finishDelete_of_ne memory different.symm held
  | done settings outcome => exact held

theorem deletes_step (flight : Flight) :
    (flight.step world).2.journal.deletes = world.journal.deletes ∨
      ∃ file ∈ flight.stage.files,
        (flight.step world).2.journal.deletes =
          world.journal.deletes.push file.address := by
  cases flight.situation with
  | calls asks stored =>
      rw [step_of_request asks stored]
      exact .inl (World.beside_perform _ _ stored).deletes
  | begins settings file rest result =>
      have told : (world.tell (.deletingFile file)).InMemory := memory
      exact .inr ⟨file, List.mem_cons_self,
        World.deletes_beginDelete told file.bucket file.storageKey⟩
  | ends settings file rest result =>
      exact .inl (World.deletes_finishDelete memory ..)
  | done settings outcome => exact .inl rfl

end Flight

end FileCleanup.Simulation
