import FileCleanup.Proofs.Batch.Protocol
import FileCleanup.Proofs.Interleaving.Loops
import FileCleanup.Simulation.Crew

namespace FileCleanup.Simulation

/-! What a worker loop does in its batches from one wait to the next: what it
says to the stores and what they answer, and which batches begin and end. -/

/-- What a batch says before it is finished or falls asleep. -/
def said (settings : CleanupSettings) (phase : Phase) (world : World) :
    List Exchange :=
  match _asks : phase.due settings with
  | .inl _ => []
  | .inr request =>
    match phase with
    | .deleting _ _ _ =>
      if world.objects.delay = 0 then
        ⟨request.call, request.answered World.backend world⟩ ::
          said settings (request.perform World.backend world).1
            (request.perform World.backend world).2
      else []
    | _ =>
      ⟨request.call, request.answered World.backend world⟩ ::
        said settings (request.perform World.backend world).1
          (request.perform World.backend world).2
termination_by callsLeft world phase
decreasing_by all_goals exact callsLeft_perform world _asks

/-- What a batch says once the delete of `file` is over. -/
def saidAwake (settings : CleanupSettings) (file : FileRecord)
    (rest : List FileRecord) (result : BatchResult) (world : World) :
    List Exchange :=
  let (answer, after) := world.finishDelete file.bucket file.storageKey
  ⟨.deleteObject file.bucket file.storageKey, answer⟩ ::
    match answer with
    | .ok () => said settings (.finalizing file rest result) after
    | .error cause =>
      said settings (.recordingFailure file cause rest result) after

inductive Deed
  | begins
  | speaks (exchange : Exchange)
  | ends (outcome : Except CleanupError BatchResult)

def Deed.exchange? : Deed → Option Exchange
  | .speaks exchange => some exchange
  | _ => none

/-- What is said in the course of `deeds`. -/
def spoken (deeds : List Deed) : List Exchange :=
  deeds.filterMap Deed.exchange?

@[simp] theorem spoken_append (earlier later : List Deed) :
    spoken (earlier ++ later) = spoken earlier ++ spoken later :=
  List.filterMap_append

@[simp] theorem spoken_speaks (exchanges : List Exchange) :
    spoken (exchanges.map .speaks) = exchanges := by
  rw [spoken, List.filterMap_map]
  exact List.filterMap_some

@[simp] theorem spoken_begins (deeds : List Deed) :
    spoken (.begins :: deeds) = spoken deeds := rfl

@[simp] theorem spoken_ends (outcome : Except CleanupError BatchResult)
    (deeds : List Deed) : spoken (.ends outcome :: deeds) = spoken deeds := rfl

/-- A batch that has come to `progress` has ended or not. -/
def Progress.deeds : Progress → List Deed
  | .finished outcome => [.ends outcome]
  | .asleep _ _ _ _ => []

@[simp] theorem spoken_progress (progress : Progress) :
    spoken progress.deeds = [] := by
  cases progress <;> rfl

namespace Loop

def betweenDeeds (loop : Loop) (world : World) : List Deed :=
  if loop.cancelled then []
  else if loop.ticker.due ≤ world.clock then
    .begins :: (said loop.settings .releasing world).map .speaks ++
      (proceed loop.settings .releasing world).1.deeds
  else []

/-- What a loop does when it can go on. -/
def deeds (loop : Loop) (world : World) : List Deed :=
  match loop.activity with
  | .stopped => []
  | .starting =>
    betweenDeeds { loop with
      ticker := .start world.clock (loop.settings.intervalSeconds * 1000) }
      (world.tell (.workerStarted loop.settings))
  | .waiting => loop.betweenDeeds world
  | .deleting _ _ file rest result =>
    let woken := wakeUp loop.settings file rest result world
    (saidAwake loop.settings file rest result world).map .speaks ++
      woken.1.deeds ++
      match woken.1 with
      | .finished outcome =>
        betweenDeeds { loop with activity := .waiting }
          (World.backend.tellAll (LogEvent.ofOutcome outcome) woken.2)
      | .asleep _ _ _ _ => []

end Loop

/-! What a batch says, by its phase. -/

section Said

variable {settings : CleanupSettings} {phase : Phase} {world : World}

theorem said_finished (outcome : Except CleanupError BatchResult) :
    said settings (.finished outcome) world = [] := by
  rw [said]
  rfl

theorem said_asleep (slow : world.objects.delay ≠ 0) (file : FileRecord)
    (rest : List FileRecord) (result : BatchResult) :
    said settings (.deleting file rest result) world = [] := by
  rw [said]
  simp [Phase.due, slow]

theorem said_of_request {request : Phase.Request}
    (asks : phase.due settings = .inr request)
    (awake : world.objects.delay = 0 ∨
      ∀ file rest result, phase ≠ .deleting file rest result) :
    said settings phase world =
      ⟨request.call, request.answered World.backend world⟩ ::
        said settings (request.perform World.backend world).1
          (request.perform World.backend world).2 := by
  rw [said]
  split
  · rename_i ends
    rw [asks] at ends
    cases ends
  · rename_i other
    rw [asks] at other
    cases other
    split
    · rename_i file rest result _
      rcases awake with instant | other
      · rw [if_pos instant]
      · exact absurd rfl (other file rest result)
    · rfl

end Said

/-- A batch that has said `exchanges` without a wait goes on in phase `next`. -/
structure GoesOn (settings : CleanupSettings) (phase : Phase) (world : World)
    (exchanges : List Exchange) (next : Phase) (after : World) : Prop where
  talk : said settings phase world = exchanges ++ said settings next after
  work : proceed settings phase world = proceed settings next after

namespace GoesOn

variable {settings : CleanupSettings} {phase middle next : Phase}
  {world between after : World} {earlier later : List Exchange}

theorem single {request : Phase.Request}
    (asks : phase.due settings = .inr request)
    (awake : world.objects.delay = 0 ∨
      ∀ file rest result, phase ≠ .deleting file rest result) :
    GoesOn settings phase world
      [⟨request.call, request.answered World.backend world⟩]
      (request.resume (request.answered World.backend world)).1
      (request.perform World.backend world).2 :=
  ⟨said_of_request asks awake, proceed_of_request asks awake⟩

theorem trans (left : GoesOn settings phase world earlier middle between)
    (right : GoesOn settings middle between later next after) :
    GoesOn settings phase world (earlier ++ later) next after :=
  ⟨by rw [left.talk, right.talk, List.append_assoc],
    left.work.trans right.work⟩

/-- Only a delete makes a batch wait. -/
theorem of_converses
    (talk : Phase.Converses settings World.backend phase world earlier next
      after)
    (stored : ∀ exchange ∈ earlier, ∀ bucket key,
      exchange.call ≠ .deleteObject bucket key) :
    GoesOn settings phase world earlier next after := by
  induction talk with
  | silence => exact ⟨rfl, rfl⟩
  | exchange asks _ induction =>
      obtain ⟨first, others⟩ := List.forall_mem_cons.mp stored
      refine (single asks (.inr ?_)).trans (induction others)
      rintro file rest result rfl
      cases asks
      exact first _ _ rfl

end GoesOn

section Files

variable (settings : CleanupSettings) (world : World) (file : FileRecord)
  (rest : List FileRecord) (result : BatchResult)

theorem goesOn_finalizing :
    ∃ answer after, GoesOn settings (.finalizing file rest result) world
      [⟨.softDelete file.id, answer⟩]
      (.next (Handling.counted result (.finalized file answer)) rest)
      after := by
  obtain ⟨answer, after, talk⟩ := Phase.converses_finalizing settings
    World.backend world file rest result
  exact ⟨answer, after, .of_converses talk (by simp)⟩

theorem goesOn_recordingFailure (cause : StorageError) :
    ∃ answer after, GoesOn settings (.recordingFailure file cause rest result)
      world [⟨.recordFailedAttempt file.id, answer⟩]
      (.next (Handling.counted result (.postponed file cause answer)) rest)
      after := by
  obtain ⟨answer, after, talk⟩ := Phase.converses_recordingFailure settings
    World.backend world file rest result cause
  exact ⟨answer, after, .of_converses talk (by simp)⟩

/-- Deletes that take no time leave no wait between two files. -/
theorem goesOn_deleting (instant : world.objects.delay = 0) :
    ∃ handling after, Handling.file handling = file ∧
      GoesOn settings (.deleting file rest result) world handling.exchanges
        (.next (Handling.counted result handling) rest) after := by
  have goes : GoesOn settings (.deleting file rest result) world _ _ _ :=
    .single rfl (.inl instant)
  generalize Phase.Request.answered _ World.backend world = answer at goes
  cases answer with
  | ok =>
      obtain ⟨answer, after, finalizes⟩ :=
        goesOn_finalizing settings _ file rest result
      exact ⟨.finalized file answer, after, rfl, goes.trans finalizes⟩
  | error cause =>
      obtain ⟨answer, after, counts⟩ :=
        goesOn_recordingFailure settings _ file rest result cause
      exact ⟨.postponed file cause answer, after, rfl, goes.trans counts⟩

end Files

/-- The files that a batch has still to delete when it comes to `progress`. -/
def Progress.files : Progress → List FileRecord
  | .finished _ => []
  | .asleep _ file rest _ => file :: rest

/-- `exchanges` are about some of `files`, one after the other, and the others
are left at `progress`. -/
def HandlesUpTo (files : List FileRecord) (exchanges : List Exchange)
    (progress : Progress) : Prop :=
  ∃ handlings : List Handling,
    exchanges = handlings.flatMap Handling.exchanges ∧
    handlings.map Handling.file ++ progress.files = files

theorem HandlesUpTo.cons {files : List FileRecord} {exchanges : List Exchange}
    {progress : Progress} (handles : HandlesUpTo files exchanges progress)
    (handling : Handling) :
    HandlesUpTo (handling.file :: files) (handling.exchanges ++ exchanges)
      progress := by
  obtain ⟨handlings, rfl, rfl⟩ := handles
  exact ⟨handling :: handlings, rfl, rfl⟩

theorem said_next (settings : CleanupSettings) (result : BatchResult)
    (files : List FileRecord) (world : World) :
    HandlesUpTo files (said settings (.next result files) world)
      (proceed settings (.next result files) world).1 := by
  induction files generalizing result world with
  | nil =>
      refine ⟨[], said_finished _, ?_⟩
      rw [Phase.next, proceed_finished]
      rfl
  | cons file rest induction =>
      rw [Phase.next]
      -- Files are handled at once up to the first delete that takes time.
      by_cases instant : world.objects.delay = 0
      · obtain ⟨handling, after, rfl, goes⟩ :=
          goesOn_deleting settings world file rest result instant
        rw [goes.talk, goes.work]
        exact (induction _ after).cons handling
      · refine ⟨[], said_asleep instant file rest result, ?_⟩
        rw [proceed_asleep instant]
        rfl

theorem GoesOn.handles {settings : CleanupSettings} {phase : Phase}
    {world after : World} {exchanges : List Exchange} {result : BatchResult}
    {files : List FileRecord}
    (goes : GoesOn settings phase world exchanges (.next result files) after) :
    ∃ others, said settings phase world = exchanges ++ others ∧
      HandlesUpTo files others (proceed settings phase world).1 := by
  refine ⟨_, goes.talk, ?_⟩
  rw [goes.work]
  exact said_next settings result files after

/-- What a batch says from its first call on, until it has come to `progress`:
its claim, which may fail, and then about the files that it has claimed. -/
def Opens (settings : CleanupSettings) (exchanges : List Exchange)
    (progress : Progress) : Prop :=
  ∃ released claimed others,
    exchanges = ⟨.releaseStaleClaims settings.staleClaimAge, released⟩ ::
      ⟨.claimExpired settings.batchSize, claimed⟩ :: others ∧
    match claimed with
    | .ok files => HandlesUpTo files others progress
    | .error cause => others = [] ∧ progress = .finished (.error (.claim cause))

theorem said_claiming (settings : CleanupSettings) (world : World) :
    ∃ claimed others,
      said settings .claiming world =
        ⟨.claimExpired settings.batchSize, claimed⟩ :: others ∧
      match claimed with
      | .ok files =>
        HandlesUpTo files others (proceed settings .claiming world).1
      | .error cause =>
        others = [] ∧ (proceed settings .claiming world).1 =
          .finished (.error (.claim cause)) := by
  have goes : GoesOn settings .claiming world _ _ _ :=
    .single rfl (.inr (by simp))
  generalize Phase.Request.answered _ World.backend world = claimed at goes
  cases claimed with
  | ok files =>
      obtain ⟨others, talk, handles⟩ := GoesOn.handles goes
      exact ⟨.ok files, others, talk, handles⟩
  | error cause =>
      refine ⟨.error cause, [], ?_, rfl, ?_⟩
      · rw [goes.talk]
        exact congrArg (List.cons _) (said_finished _)
      · rw [goes.work]
        exact congrArg Prod.fst (proceed_finished ..)

theorem said_releasing (settings : CleanupSettings) (world : World) :
    Opens settings (said settings .releasing world)
      (proceed settings .releasing world).1 := by
  obtain ⟨released, after, releases⟩ :=
    Phase.converses_releasing settings World.backend world
  have goes := GoesOn.of_converses releases (by simp)
  obtain ⟨claimed, others, talk, follows⟩ := said_claiming settings after
  refine ⟨released, claimed, others, ?_, ?_⟩
  · rw [goes.talk, talk]
    rfl
  · rwa [goes.work]

theorem said_wakeUp (settings : CleanupSettings) (file : FileRecord)
    (rest : List FileRecord) (result : BatchResult) (world : World) :
    ∃ handling exchanges, Handling.file handling = file ∧
      saidAwake settings file rest result world =
        handling.exchanges ++ exchanges ∧
      HandlesUpTo rest exchanges
        (wakeUp settings file rest result world).1 := by
  unfold saidAwake wakeUp
  cases world.finishDelete file.bucket file.storageKey with
  | mk answer woken =>
      cases answer with
      | ok =>
          obtain ⟨answer, after, goes⟩ :=
            goesOn_finalizing settings woken file rest result
          obtain ⟨others, talk, handles⟩ := goes.handles
          exact ⟨.finalized file answer, others, rfl,
            congrArg (List.cons _) talk, handles⟩
      | error cause =>
          obtain ⟨answer, after, goes⟩ :=
            goesOn_recordingFailure settings woken file rest result cause
          obtain ⟨others, talk, handles⟩ := goes.handles
          exact ⟨.postponed file cause answer, others, rfl,
            congrArg (List.cons _) talk, handles⟩

end FileCleanup.Simulation
