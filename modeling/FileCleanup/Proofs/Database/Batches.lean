import FileCleanup.Proofs.Batch.Run
import FileCleanup.Proofs.Database.Attempts
import FileCleanup.Simulation.DatabaseWorld

namespace FileCleanup

open Simulation

/-! A batch over the records of a database: the transactions it attempts, the
objects it deletes between them, and what it counts. -/

variable {State Event : Type}

/-- Keeps what `observe` sees of each call. -/
def Backend.observing (backend : Backend State)
    (observe : State → State → List Event) : Backend (State × List Event) where
  answer call state :=
    let (answer, after) := backend.answer call state.1
    (answer, after, state.2 ++ observe state.1 after)
  tell event state := (backend.tell event state.1, state.2)

section Observing

variable {backend : Backend State} {observe : State → State → List Event}

theorem Backend.extends_observing :
    (backend.observing observe).Extends backend :=
  ⟨fun _ _ _ => ⟨_, rfl⟩, fun _ _ _ => rfl⟩

namespace Phase

theorem Request.perform_observing (request : Request) (state : State)
    (seen : List Event) :
    request.perform (backend.observing observe) (state, seen) =
      ((request.perform backend state).1, (request.perform backend state).2,
        seen ++ observe (backend.tellAll request.announced state)
          (backend.answer request.call
            (backend.tellAll request.announced state)).2) := by
  simp only [perform, Backend.extends_observing.tellAll]
  rfl

/-- A batch goes the same way whether it is observed or not. -/
theorem run_of_observing {settings : CleanupSettings} {phase : Phase}
    {state after : State} {seen all : List Event}
    {outcome : Except CleanupError BatchResult}
    (runs : run settings (backend.observing observe) phase (state, seen) =
      (outcome, after, all)) :
    run settings backend phase state = (outcome, after) :=
  run_of_extends Backend.extends_observing runs

end Phase

end Observing

namespace Simulation.DatabaseWorld

/-- What a batch does outside its own memory. -/
inductive Deed
  | message (message : Message)
  | delete (bucket key : String)

def deeds (before after : DatabaseWorld) : List Deed :=
  (after.session.sent.drop before.session.sent.length).map .message ++
    (after.deletes.drop before.deletes.length).map fun address =>
      .delete address.1 address.2

/-- Writes down what is sent and deleted, in its order. -/
def watched : Backend (DatabaseWorld × List Deed) :=
  backend.observing deeds

/-- The update that a file comes to. -/
def closing (world : DatabaseWorld) (file : FileRecord) : Statement :=
  if file.storageKey ∈ world.storage.failingKeys then
    .recordFailedAttempt file.id
  else .softDelete file.id

/-- What is done for a file whose transaction has the given place. -/
def handling (world : DatabaseWorld) (file : FileRecord) (place : Nat) :
    List Deed :=
  .delete file.bucket file.storageKey ::
    (world.session.attempt place (world.closing file) true).map .message

/-- Whether object and record of a file are deleted. -/
def finishes (world : DatabaseWorld) (file : FileRecord) (place : Nat) : Bool :=
  file.storageKey ∉ world.storage.failingKeys &&
    world.session.commits place true

/-- The same server and failing keys, some transactions later. -/
structure Onward (before after : DatabaseWorld) (count : Nat) : Prop where
  later : before.session.Later after.session count
  failingKeys : after.storage.failingKeys = before.storage.failingKeys

namespace Onward

variable {before after : DatabaseWorld} {count : Nat}
  (onward : Onward before after count)
include onward

theorem trans {last : DatabaseWorld} {more : Nat}
    (further : Onward after last more) : Onward before last (count + more) :=
  ⟨onward.later.trans further.later,
    further.failingKeys.trans onward.failingKeys⟩

theorem tellAll (events : List LogEvent) :
    Onward before (backend.tellAll events after) count := by
  induction events generalizing after with
  | nil => exact onward
  | cons event events induction =>
      exact induction ⟨⟨onward.later.isOpen, onward.later.scripts⟩,
        onward.failingKeys⟩

theorem handling_eq (file : FileRecord) (place : Nat) :
    after.handling file place = before.handling file (place + count) := by
  unfold handling closing
  rw [onward.later.attempt_eq, onward.failingKeys]

theorem finishes_eq (file : FileRecord) (place : Nat) :
    after.finishes file place = before.finishes file (place + count) := by
  unfold finishes
  rw [onward.later.commits_eq, onward.failingKeys]

end Onward

theorem deeds_of_passes {world : DatabaseWorld} {session : Session}
    {messages : List Message} (passes : world.session.Passes session messages) :
    world.deeds { world with session } = messages.map .message := by
  rw [deeds, passes.sent, List.drop_left, List.drop_length, List.map_nil,
    List.append_nil]

theorem deeds_deleteObject (world : DatabaseWorld) (bucket key : String) :
    world.deeds (world.deleteObject bucket key).2 = [.delete bucket key] := by
  simp [deeds, deleteObject]

theorem fst_deleteObject (world : DatabaseWorld) (bucket key : String) :
    (world.deleteObject bucket key).1 =
      if key ∈ world.storage.failingKeys then
        .error (.deleteFailed ("simulated failure for " ++ key))
      else .ok () := by
  simp only [deleteObject, MemoryStorage.delete]
  split <;> rfl

theorem onward_tell (world : DatabaseWorld) (event : LogEvent) :
    Onward world (tell event world) 0 :=
  ⟨⟨rfl, fun _ => rfl⟩, rfl⟩

theorem onward_deleteObject (world : DatabaseWorld) (bucket key : String) :
    Onward world (world.deleteObject bucket key).2 0 := by
  refine ⟨⟨rfl, fun _ => rfl⟩, ?_⟩
  simp only [deleteObject, MemoryStorage.delete]
  split <;> rfl

section Run

variable (settings : CleanupSettings) (world : DatabaseWorld) (seen : List Deed)

theorem run_answered (phase : Phase) {request : Phase.Request}
    (asks : phase.due settings = .inr request) {told : DatabaseWorld}
    (tells : backend.tellAll request.announced world = told) :
    Phase.run settings watched phase (world, seen) =
      Phase.run settings watched
        (request.resume (answer request.call told).1).1
        ((request.perform backend world).2,
          seen ++ told.deeds (answer request.call told).2) := by
  subst tells
  rw [Phase.run_of_request asks, watched, Phase.Request.perform_observing]
  rfl

/-- A call of the record store is one transaction. -/
theorem run_stored (phase : Phase) {request : Phase.Request}
    (asks : phase.due settings = .inr request)
    (announced : request.announced = []) {session : Session}
    {messages : List Message}
    (answers : (answer request.call world).2 = { world with session })
    (passes : world.session.Passes session messages) :
    ∃ after,
      Phase.run settings watched phase (world, seen) =
        Phase.run settings watched
          (request.resume (answer request.call world).1).1
          (after, seen ++ messages.map .message) ∧
      Onward world after 1 := by
  have silent : backend.tellAll request.announced world = world := by
    rw [announced]
    rfl
  have done : deeds world (answer request.call world).2 =
      messages.map .message := by
    rw [answers, deeds_of_passes passes]
  have goes : Onward world (answer request.call world).2 1 := by
    rw [answers]
    exact ⟨passes.toLater, rfl⟩
  have runs := run_answered settings world seen phase asks silent
  rw [done] at runs
  refine ⟨_, runs, ?_⟩
  simp only [Phase.Request.perform, silent]
  exact goes.tellAll _

theorem run_releasing :
    ∃ after,
      Phase.run settings watched .releasing (world, seen) =
        Phase.run settings watched .claiming
          (after, seen ++ (world.session.attempt 0
            (.releaseStaleClaims settings.staleClaimAge) true).map .message) ∧
      Onward world after 1 := by
  obtain ⟨after, runs, onward⟩ := run_stored settings world seen
    .releasing rfl rfl rfl (world.session.passes_releaseStaleClaims _)
  refine ⟨after, ?_, onward⟩
  rw [runs]
  congr 1
  dsimp only
  split <;> rfl

theorem run_recordingFailure (file : FileRecord) (cause : StorageError)
    (rest : List FileRecord) (result : BatchResult) :
    ∃ after,
      Phase.run settings watched (.recordingFailure file cause rest result)
          (world, seen) =
        Phase.run settings watched (Phase.next result.withFailed rest)
          (after, seen ++ (world.session.attempt 0
            (.recordFailedAttempt file.id) true).map .message) ∧
      Onward world after 1 :=
  run_stored settings world seen
    (.recordingFailure file cause rest result) rfl rfl rfl
    (world.session.passes_recordFailedAttempt _)

theorem run_finalizing (file : FileRecord) (rest : List FileRecord)
    (result : BatchResult) :
    ∃ after,
      Phase.run settings watched (.finalizing file rest result) (world, seen) =
        Phase.run settings watched
          (Phase.next
            (if world.session.commits 0 true then result.withProcessed
              else result.withFailed)
            rest)
          (after, seen ++ (world.session.attempt 0
            (.softDelete file.id) true).map .message) ∧
      Onward world after 1 := by
  obtain ⟨after, runs, onward⟩ := run_stored settings world seen
    (.finalizing file rest result) rfl rfl rfl
    (world.session.passes_softDelete _)
  refine ⟨after, ?_, onward⟩
  rw [runs, ← world.session.isOk_softDelete file.id]
  congr 1
  dsimp only [answer]
  cases (world.session.softDelete file.id).1 <;> rfl

theorem run_claiming :
    ∃ after,
      Phase.run settings watched .claiming (world, seen) =
        Phase.run settings watched
          (match (world.session.claimExpired settings.batchSize).1 with
            | .ok files => Phase.next .none files
            | .error cause => .finished (.error (.claim cause)))
          (after, seen ++ (world.session.attempt 0
            (.claimExpired settings.batchSize)
            (world.session.readable 0)).map .message) ∧
      Onward world after 1 := by
  obtain ⟨after, runs, onward⟩ := run_stored settings world seen
    .claiming rfl rfl rfl (world.session.passes_claimExpired _)
  refine ⟨after, ?_, onward⟩
  rw [runs]
  congr 1
  dsimp only [answer]
  cases (world.session.claimExpired settings.batchSize).1 <;> rfl

theorem run_deleting (file : FileRecord) (rest : List FileRecord)
    (result : BatchResult) :
    ∃ after,
      Phase.run settings watched (.deleting file rest result) (world, seen) =
        Phase.run settings watched
          (if file.storageKey ∈ world.storage.failingKeys then
            .recordingFailure file
              (.deleteFailed ("simulated failure for " ++ file.storageKey))
              rest result
            else .finalizing file rest result)
          (after, seen ++ [.delete file.bucket file.storageKey]) ∧
      Onward world after 0 := by
  let told := tell (.deletingFile file) world
  have stays : Onward world (told.deleteObject file.bucket file.storageKey).2 0 :=
    (onward_tell world _).trans (onward_deleteObject told _ _)
  have tells : backend.tellAll [.deletingFile file] world = told := rfl
  have runs := run_answered settings world seen
    (.deleting file rest result) rfl tells
  refine ⟨_, runs.trans (congrArg₂ (Phase.run settings watched) ?_
    (congrArg (Prod.mk _ ∘ List.append seen)
      (deeds_deleteObject told file.bucket file.storageKey))), stays.tellAll _⟩
  have answers : (told.deleteObject file.bucket file.storageKey).1 =
      if file.storageKey ∈ world.storage.failingKeys then _ else _ :=
    told.fst_deleteObject file.bucket file.storageKey
  dsimp only [answer]
  rw [answers]
  by_cases failing : file.storageKey ∈ world.storage.failingKeys
  · rw [if_pos failing, if_pos failing]
  · rw [if_neg failing, if_neg failing]

/-- A file is worked on in one delete and one transaction. -/
theorem run_file (file : FileRecord) (rest : List FileRecord)
    (result : BatchResult) :
    ∃ after,
      Phase.run settings watched (Phase.next result (file :: rest))
          (world, seen) =
        Phase.run settings watched
          (Phase.next
            (if world.finishes file 0 then result.withProcessed
              else result.withFailed)
            rest)
          (after, seen ++ world.handling file 0) ∧
      Onward world after 1 := by
  obtain ⟨middle, deletes, stays⟩ :=
    run_deleting settings world seen file rest result
  by_cases failing : file.storageKey ∈ world.storage.failingKeys
  · obtain ⟨after, counts, onward⟩ := run_recordingFailure settings middle
      (seen ++ [.delete file.bucket file.storageKey]) file
      (.deleteFailed ("simulated failure for " ++ file.storageKey)) rest result
    refine ⟨after, ?_, stays.trans onward⟩
    rw [Phase.next, deletes, if_pos failing, counts]
    simp [finishes, handling, closing, failing, stays.later.attempt_eq]
  · obtain ⟨after, finalizes, onward⟩ := run_finalizing settings middle
      (seen ++ [.delete file.bucket file.storageKey]) file rest result
    refine ⟨after, ?_, stays.trans onward⟩
    rw [Phase.next, deletes, if_neg failing, finalizes]
    simp [finishes, handling, closing, failing, stays.later.attempt_eq,
      stays.later.commits_eq]

end Run

/-- The claimed files are worked on one after the other, whatever becomes of
each. -/
theorem run_next (settings : CleanupSettings) {start world : DatabaseWorld}
    {place : Nat} (onward : Onward start world place) (seen : List Deed)
    (files : List FileRecord) (result : BatchResult) :
    ∃ (after : DatabaseWorld) (total : BatchResult),
      Phase.run settings watched (Phase.next result files) (world, seen) =
        (.ok total, after, seen ++
          (files.zipIdx place).flatMap fun (file, place) =>
            start.handling file place) ∧
      total.processed = result.processed + (files.zipIdx place).countP
        (fun (file, place) => start.finishes file place) ∧
      total.failed = result.failed + (files.zipIdx place).countP
        fun (file, place) => !start.finishes file place := by
  induction files generalizing place world seen result with
  | nil =>
      refine ⟨world, result, ?_, rfl, rfl⟩
      rw [Phase.next, Phase.run_finished, List.zipIdx_nil, List.flatMap_nil,
        List.append_nil]
  | cons file rest induction =>
      obtain ⟨middle, handles, further⟩ :=
        run_file settings world seen file rest result
      rw [onward.handling_eq, onward.finishes_eq, Nat.zero_add] at handles
      obtain ⟨after, total, runs, processed, failed⟩ :=
        induction (onward.trans further) (seen ++ start.handling file place)
          (if start.finishes file place then result.withProcessed
            else result.withFailed)
      have one : (if start.finishes file place then result.withProcessed
          else result.withFailed).processed =
            result.processed + if start.finishes file place then 1 else 0 := by
        split <;> rfl
      have other : (if start.finishes file place then result.withProcessed
          else result.withFailed).failed =
            result.failed + if !start.finishes file place then 1 else 0 := by
        cases start.finishes file place <;> rfl
      refine ⟨after, total, ?_, ?_, ?_⟩
      · rw [handles, runs, List.zipIdx_cons, List.flatMap_cons,
          List.append_assoc]
      · rw [processed, one, List.zipIdx_cons, List.countP_cons,
          Nat.add_assoc, Nat.add_comm (ite _ _ _)]
      · rw [failed, other, List.zipIdx_cons, List.countP_cons,
          Nat.add_assoc, Nat.add_comm (ite _ _ _)]

/-- A file is finished or it is not. -/
theorem finishes_add (world : DatabaseWorld) (files : List FileRecord)
    (place : Nat) :
    (files.zipIdx place).countP (fun (file, place) =>
        world.finishes file place) +
      (files.zipIdx place).countP (fun (file, place) =>
        !world.finishes file place) = files.length := by
  rw [← List.length_zipIdx (l := files) (i := place),
    List.length_eq_countP_add_countP fun (file, place) =>
      world.finishes file place]
  simp

end Simulation.DatabaseWorld

open Simulation.DatabaseWorld in
/-- What a batch sends to a database and deletes beside it, in its order, and
what it reports, whatever the server answers. -/
theorem runBatch_transactions (settings : CleanupSettings)
    (world : DatabaseWorld) :
    let session := world.session
    let claims := session.commits 1 (session.readable 1)
    ∃ (files : List FileRecord)
        (outcome : Except CleanupError BatchResult) (after : DatabaseWorld),
      runBatch settings backend world = (outcome, after) ∧
      runBatch settings watched (world, []) = (outcome, after,
        (session.attempt 0 (.releaseStaleClaims settings.staleClaimAge)
          true).map .message ++
        (session.attempt 1 (.claimExpired settings.batchSize)
          (session.readable 1)).map .message ++
        (files.zipIdx 2).flatMap fun (file, place) =>
          world.handling file place) ∧
      (claims = false → files = [] ∧ ∃ cause, outcome = .error (.claim cause)) ∧
      (claims = true →
        (files.map .ok).Perm ((session.scriptAt 1).rows.map Row.decode) ∧
        files.Pairwise (fun first second => first.expiresNoLater second) ∧
        ∃ result, outcome = .ok result ∧
          result.processed = (files.zipIdx 2).countP
            (fun (file, place) => world.finishes file place) ∧
          result.failed = (files.zipIdx 2).countP
            (fun (file, place) => !world.finishes file place) ∧
          result.processed + result.failed =
            (session.scriptAt 1).rows.length) := by
  intro session claims
  obtain ⟨released, releases, onward⟩ := run_releasing settings world []
  obtain ⟨claimed, asks, further⟩ := run_claiming settings released
    ([] ++ (session.attempt 0
      (.releaseStaleClaims settings.staleClaimAge) true).map .message)
  rw [onward.later.attempt_readable, List.nil_append] at asks
  have committed := released.session.isOk_claimExpired settings.batchSize
  rw [onward.later.commits_readable] at committed
  cases answered : (released.session.claimExpired settings.batchSize).1 with
  | error cause =>
      rw [answered] at committed asks
      have runs := releases.trans asks
      rw [Phase.run_finished] at runs
      refine ⟨[], _, claimed, Phase.run_of_observing runs, ?_,
        fun _ => ⟨rfl, cause, rfl⟩, ?_⟩
      · rw [List.zipIdx_nil, List.flatMap_nil, List.append_nil]
        exact runs
      · intro claimed
        cases committed.trans claimed
  | ok files =>
      rw [answered] at committed asks
      obtain ⟨after, total, works, processed, failed⟩ :=
        run_next settings (onward.trans further) _ files .none
      have runs := (releases.trans asks).trans works
      refine ⟨files, _, after, Phase.run_of_observing runs, runs, ?_, ?_⟩
      · intro uncommitted
        cases committed.trans uncommitted
      · intro claimed
        obtain ⟨rows, ordered⟩ :=
          released.session.files_of_claimExpired settings.batchSize answered
        have isOpen : session.isOpen = true :=
          (Bool.and_eq_true_iff.mp claimed).1
        rw [onward.later.scriptAt_eq isOpen] at rows
        have counted : files.length = (session.scriptAt 1).rows.length := by
          simpa only [List.length_map] using rows.length_eq
        rw [BatchResult.none, Nat.zero_add] at processed failed
        refine ⟨rows, ordered, total, rfl, processed, failed, ?_⟩
        rw [processed, failed, finishes_add, counted]

/-- A server that returns a row to the claim and then cannot commit it. -/
def Session.Sample.uncommitted : Session :=
  .start [.quiet,
    { Script.quiet with
      rows := [.ofRecord Simulation.Sample.expired]
      commitFault := some ⟨"40001", "could not serialize access"⟩ }]

theorem runBatch_transactions_sample :
    ∃ cause, (runBatch .standard Simulation.DatabaseWorld.backend
      ⟨Session.Sample.uncommitted, .empty .s3, []⟩).1 =
        .error (.claim cause) := by
  obtain ⟨_, _, _, runs, _, fails, _⟩ := runBatch_transactions .standard
    ⟨Session.Sample.uncommitted, .empty .s3, []⟩
  obtain ⟨_, cause, rfl⟩ := fails rfl
  exact ⟨cause, congrArg Prod.fst runs⟩

end FileCleanup
