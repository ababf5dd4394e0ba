import FileCleanup.Proofs.Batch.Run

namespace FileCleanup

/-! What a batch says to the stores, whatever they answer: the calls it makes,
their order, and what it makes of the answers. -/

variable {State : Type}

/-- A call with the answer to it. -/
structure Exchange where
  call : Call
  answer : call.Answer

namespace Backend

/-- Writes down every call with its answer. -/
def recording (backend : Backend State) : Backend (State × List Exchange) where
  answer call state :=
    let (answer, after) := backend.answer call state.1
    (answer, after, state.2 ++ [⟨call, answer⟩])
  tell event state := (backend.tell event state.1, state.2)

theorem extends_recording (backend : Backend State) :
    backend.recording.Extends backend :=
  ⟨fun _ _ _ => ⟨_, rfl⟩, fun _ _ _ => rfl⟩

end Backend

namespace Phase

/-- The answer that a request gets. -/
def Request.answered (request : Request) (backend : Backend State)
    (state : State) : request.call.Answer :=
  (backend.answer request.call (backend.tellAll request.announced state)).1

theorem Request.perform_recording (request : Request) (backend : Backend State)
    (state : State) (history : List Exchange) :
    request.perform backend.recording (state, history) =
      ((request.resume (request.answered backend state)).1,
        (request.perform backend state).2,
        history ++ [⟨request.call, request.answered backend state⟩]) := by
  simp only [perform, backend.extends_recording.tellAll]
  rfl

/-- What is said on the way from one phase to another. -/
inductive Converses (settings : CleanupSettings) (backend : Backend State) :
    Phase → State → List Exchange → Phase → State → Prop
  | silence (phase : Phase) (state : State) :
      Converses settings backend phase state [] phase state
  | exchange {phase last : Phase} {request : Request} {state after : State}
      {exchanges : List Exchange} (asks : phase.due settings = .inr request)
      (others : Converses settings backend
        (request.resume (request.answered backend state)).1
        (request.perform backend state).2 exchanges last after) :
      Converses settings backend phase state
        (⟨request.call, request.answered backend state⟩ :: exchanges) last after

namespace Converses

variable {settings : CleanupSettings} {backend : Backend State}
  {phase : Phase} {state after : State} {exchanges : List Exchange}

theorem single {request : Request} (asks : phase.due settings = .inr request)
    (state : State) :
    Converses settings backend phase state
      [⟨request.call, request.answered backend state⟩]
      (request.resume (request.answered backend state)).1
      (request.perform backend state).2 :=
  .exchange asks (.silence _ _)

theorem trans {first second third : Phase} {start middle : State}
    {earlier later : List Exchange}
    (left : Converses settings backend first start earlier second middle)
    (right : Converses settings backend second middle later third after) :
    Converses settings backend first start (earlier ++ later) third after := by
  induction left with
  | silence => exact right
  | exchange asks _ induction => exact .exchange asks (induction right)

/-- Before a batch ends, every request that is due is made. -/
theorem exists_exchange {request : Request}
    (asks : phase.due settings = .inr request)
    {outcome : Except CleanupError BatchResult}
    (talk : Converses settings backend phase state exchanges
      (.finished outcome) after) :
    ∃ others,
      exchanges = ⟨request.call, request.answered backend state⟩ :: others ∧
      Converses settings backend
        (request.resume (request.answered backend state)).1
        (request.perform backend state).2 others (.finished outcome) after := by
  cases talk with
  | silence => cases asks
  | exchange due others =>
      cases asks.symm.trans due
      exact ⟨_, rfl, others⟩

/-- A batch that has finished has run, and this is all that was said. -/
theorem run_eq {outcome : Except CleanupError BatchResult}
    (talk : Converses settings backend phase state exchanges
      (.finished outcome) after) :
    run settings backend phase state = (outcome, after) := by
  generalize ending : Phase.finished outcome = last at talk
  induction talk with
  | silence => rw [← ending, run_finished]
  | exchange asks _ induction =>
      rw [run_of_request asks]
      exact induction ending

theorem run_recording {outcome : Except CleanupError BatchResult}
    (talk : Converses settings backend phase state exchanges
      (.finished outcome) after)
    (history : List Exchange) :
    run settings backend.recording phase (state, history) =
      (outcome, after, history ++ exchanges) := by
  generalize ending : Phase.finished outcome = last at talk
  induction talk generalizing history with
  | silence => rw [← ending, run_finished, List.append_nil]
  | exchange asks _ induction =>
      rw [run_of_request asks, Request.perform_recording, induction _ ending,
        List.append_assoc]
      rfl

end Converses

end Phase

/-- What a batch and the stores said about one claimed file. -/
inductive Handling
  /-- The object was deleted, and so was to be the record. -/
  | finalized (file : FileRecord) (answer : Except Report Unit)
  /-- The object could not be deleted, which was to be counted. -/
  | postponed (file : FileRecord) (cause : StorageError)
      (answer : Except Report Unit)

namespace Handling

def file : Handling → FileRecord
  | finalized file _ => file
  | postponed file _ _ => file

def exchanges : Handling → List Exchange
  | finalized file answer =>
    [⟨.deleteObject file.bucket file.storageKey, .ok ()⟩,
      ⟨.softDelete file.id, answer⟩]
  | postponed file cause answer =>
    [⟨.deleteObject file.bucket file.storageKey, .error cause⟩,
      ⟨.recordFailedAttempt file.id, answer⟩]

/-- Both the object and the record were deleted. -/
def succeeded : Handling → Bool
  | finalized _ (.ok ()) => true
  | finalized _ (.error _) => false
  | postponed _ _ _ => false

def counted (result : BatchResult) (handling : Handling) : BatchResult :=
  if handling.succeeded then result.withProcessed else result.withFailed

theorem processed_foldl_counted (handlings : List Handling)
    (result : BatchResult) :
    (handlings.foldl counted result).processed =
      result.processed + handlings.countP succeeded := by
  induction handlings generalizing result with
  | nil => rfl
  | cons handling handlings induction =>
      rw [List.foldl_cons, induction, List.countP_cons, counted]
      split
      · simp only [BatchResult.withProcessed]
        omega
      · simp only [BatchResult.withFailed]
        omega

theorem total_foldl_counted (handlings : List Handling)
    (result : BatchResult) :
    (handlings.foldl counted result).total =
      result.total + handlings.length := by
  induction handlings generalizing result with
  | nil => rfl
  | cons handling handlings induction =>
      have one : (counted result handling).total = result.total + 1 := by
        unfold counted BatchResult.total
        split
        · simp only [BatchResult.withProcessed]
          omega
        · simp only [BatchResult.withFailed]
          omega
      rw [List.foldl_cons, induction, one, List.length_cons]
      omega

end Handling

namespace Phase

variable (settings : CleanupSettings) (backend : Backend State)
  (state : State) (file : FileRecord) (rest : List FileRecord)
  (result : BatchResult)

theorem converses_finalizing :
    ∃ answer middle,
      Converses settings backend (.finalizing file rest result) state
        [⟨.softDelete file.id, answer⟩]
        (next (Handling.counted result (.finalized file answer)) rest)
        middle := by
  have talk : Converses settings backend (.finalizing file rest result) state
      _ _ _ := .single rfl state
  generalize Request.answered _ backend state = answer at talk
  cases answer with
  | ok => exact ⟨.ok (), _, talk⟩
  | error cause => exact ⟨.error cause, _, talk⟩

theorem converses_recordingFailure (cause : StorageError) :
    ∃ answer middle,
      Converses settings backend (.recordingFailure file cause rest result)
        state [⟨.recordFailedAttempt file.id, answer⟩]
        (next (Handling.counted result (.postponed file cause answer)) rest)
        middle := by
  have talk : Converses settings backend
      (.recordingFailure file cause rest result) state _ _ _ :=
    .single rfl state
  generalize Request.answered _ backend state = answer at talk
  exact ⟨answer, _, talk⟩

theorem converses_deleting :
    ∃ handling middle, Handling.file handling = file ∧
      Converses settings backend (.deleting file rest result) state
        handling.exchanges (next (Handling.counted result handling) rest)
        middle := by
  have talk : Converses settings backend (.deleting file rest result) state
      _ _ _ := .single rfl state
  generalize Request.answered _ backend state = answer at talk
  cases answer with
  | ok =>
      obtain ⟨answer, middle, finalizes⟩ :=
        converses_finalizing settings backend _ file rest result
      exact ⟨.finalized file answer, middle, rfl, talk.trans finalizes⟩
  | error cause =>
      obtain ⟨answer, middle, counts⟩ :=
        converses_recordingFailure settings backend _ file rest result cause
      exact ⟨.postponed file cause answer, middle, rfl, talk.trans counts⟩

/-- The files that a batch has claimed are handled one after the other. -/
theorem converses_next (files : List FileRecord) :
    ∃ (handlings : List Handling) (after : State),
      handlings.map Handling.file = files ∧
      Converses settings backend (next result files) state
        (handlings.flatMap Handling.exchanges)
        (.finished (.ok (handlings.foldl Handling.counted result))) after := by
  induction files generalizing state result with
  | nil => exact ⟨[], state, rfl, .silence _ _⟩
  | cons file rest induction =>
      obtain ⟨handling, middle, rfl, handles⟩ :=
        converses_deleting settings backend state file rest result
      obtain ⟨handlings, after, rfl, others⟩ :=
        induction middle (Handling.counted result handling)
      exact ⟨handling :: handlings, after, rfl, handles.trans others⟩

end Phase

/-- What a batch says after its claim, and how it ends, by the answer to the
claim. -/
def FollowsClaim (claimed : Except Report (List FileRecord))
    (exchanges : List Exchange) (outcome : Except CleanupError BatchResult) :
    Prop :=
  match claimed with
  | .error cause => exchanges = [] ∧ outcome = .error (.claim cause)
  | .ok files =>
    ∃ handlings : List Handling,
      handlings.map Handling.file = files ∧
      exchanges = handlings.flatMap Handling.exchanges ∧
      ∃ result, outcome = .ok result ∧
        result.processed = handlings.countP (·.succeeded) ∧
        result.processed + result.failed = files.length

namespace Phase

variable (settings : CleanupSettings) (backend : Backend State)

/-- The batch goes on to its claim, whatever the release is answered. -/
theorem converses_releasing (state : State) :
    ∃ released middle,
      Converses settings backend .releasing state
        [⟨.releaseStaleClaims settings.staleClaimAge, released⟩] .claiming
        middle := by
  have talk : Converses settings backend .releasing state _ _ _ :=
    .single rfl state
  generalize Request.answered _ backend state = released at talk
  cases released with
  | ok count => exact ⟨.ok count, _, talk⟩
  | error cause => exact ⟨.error cause, _, talk⟩

theorem converses_claiming (state : State) :
    ∃ claimed exchanges outcome after,
      Converses settings backend .claiming state
        (⟨.claimExpired settings.batchSize, claimed⟩ :: exchanges)
        (.finished outcome) after ∧
      FollowsClaim claimed exchanges outcome := by
  have talk : Converses settings backend .claiming state _ _ _ :=
    .single rfl state
  generalize Request.answered _ backend state = claimed at talk
  cases claimed with
  | error cause => exact ⟨.error cause, [], _, _, talk, rfl, rfl⟩
  | ok files =>
      obtain ⟨handlings, after, same, others⟩ :=
        converses_next settings backend _ .none files
      have total := Handling.total_foldl_counted handlings .none
      refine ⟨.ok files, _, _, after, talk.trans others, handlings, same, rfl,
        _, rfl, ?_, ?_⟩
      · rw [Handling.processed_foldl_counted, BatchResult.none, Nat.zero_add]
      · rw [← same, List.length_map]
        exact total.trans (Nat.zero_add _)

end Phase

/-- Two backends that make the same of every call and differ at most in what
they answer to releases and failed attempts.  Neither listens to what is
told. -/
structure Backend.Alike (left right : Backend State) : Prop where
  claim : ∀ limit state, right.answer (.claimExpired limit) state =
    left.answer (.claimExpired limit) state
  delete : ∀ bucket key state, right.answer (.deleteObject bucket key) state =
    left.answer (.deleteObject bucket key) state
  softDelete : ∀ id state, right.answer (.softDelete id) state =
    left.answer (.softDelete id) state
  release : ∀ age state, (right.answer (.releaseStaleClaims age) state).2 =
    (left.answer (.releaseStaleClaims age) state).2
  failedAttempt : ∀ id state, (right.answer (.recordFailedAttempt id) state).2 =
    (left.answer (.recordFailedAttempt id) state).2
  leftDeaf : ∀ event state, left.tell event state = state
  rightDeaf : ∀ event state, right.tell event state = state

theorem Backend.tellAll_eq_self {backend : Backend State}
    (deaf : ∀ event state, backend.tell event state = state)
    (events : List LogEvent) (state : State) :
    backend.tellAll events state = state := by
  induction events with
  | nil => rfl
  | cons event events induction =>
      rw [tellAll, List.foldl_cons, deaf]
      exact induction

namespace Backend.Alike

variable {settings : CleanupSettings} {left right : Backend State}

private theorem perform_of_answer (alike : left.Alike right)
    {request : Phase.Request} {state : State}
    (same : right.answer request.call state =
      left.answer request.call state) :
    request.perform right state = request.perform left state := by
  simp only [Phase.Request.perform, tellAll_eq_self alike.leftDeaf,
    tellAll_eq_self alike.rightDeaf, same]

private theorem perform_of_phase (alike : left.Alike right)
    {request : Phase.Request} {state : State}
    (onward : ∀ answer other, (request.resume answer).1 =
      (request.resume other).1)
    (same : (right.answer request.call state).2 =
      (left.answer request.call state).2) :
    request.perform right state = request.perform left state := by
  simp only [Phase.Request.perform, tellAll_eq_self alike.leftDeaf,
    tellAll_eq_self alike.rightDeaf, same]
  rw [onward]

/-- Whatever a release or a failed attempt is answered, the batch goes on in
the same phase. -/
theorem perform_eq (alike : left.Alike right) {phase : Phase}
    {request : Phase.Request} (asks : phase.due settings = .inr request)
    (state : State) :
    request.perform right state = request.perform left state := by
  cases phase with
  | releasing =>
      cases asks
      refine alike.perform_of_phase ?_ (alike.release _ state)
      intro answer other
      cases answer <;> cases other <;> rfl
  | claiming =>
      cases asks
      exact alike.perform_of_answer (alike.claim _ state)
  | deleting file rest result =>
      cases asks
      exact alike.perform_of_answer (alike.delete _ _ state)
  | recordingFailure file cause rest result =>
      cases asks
      exact alike.perform_of_phase (fun _ _ => rfl)
        (alike.failedAttempt _ state)
  | finalizing file rest result =>
      cases asks
      exact alike.perform_of_answer (alike.softDelete _ state)
  | finished outcome => cases asks

theorem converses (alike : left.Alike right) {phase last : Phase}
    {state after : State} {exchanges : List Exchange}
    (talk : Phase.Converses settings left phase state exchanges last after) :
    ∃ others, others.map Exchange.call = exchanges.map Exchange.call ∧
      Phase.Converses settings right phase state others last after := by
  induction talk with
  | silence phase state => exact ⟨[], rfl, .silence phase state⟩
  | @exchange phase last request state after exchanges asks _ induction =>
      obtain ⟨others, same, talk⟩ := induction
      -- The answers can differ, but not the phase that follows them.
      have performs := alike.perform_eq asks state
      refine ⟨⟨request.call, request.answered right state⟩ :: others, ?_, ?_⟩
      · rw [List.map_cons, List.map_cons, same]
      · apply Phase.Converses.exchange asks
        change Phase.Converses settings right (request.perform right state).1 _
          _ _ _
        rw [performs]
        exact talk

end Backend.Alike

/-- What a batch asks of any stores and what it makes of their answers; what a
release or a failed attempt is answered makes no difference. -/
theorem runBatch_protocol (settings : CleanupSettings)
    (backend : Backend State) (state : State) :
    ∃ released claimed exchanges outcome after,
      runBatch settings backend state = (outcome, after) ∧
      runBatch settings backend.recording (state, []) =
        (outcome, after,
          ⟨.releaseStaleClaims settings.staleClaimAge, released⟩ ::
            ⟨.claimExpired settings.batchSize, claimed⟩ :: exchanges) ∧
      FollowsClaim claimed exchanges outcome ∧
      ∀ other : Backend State, backend.Alike other →
        ∃ history,
          runBatch settings other.recording (state, []) =
            (outcome, after, history) ∧
          history.map Exchange.call =
            .releaseStaleClaims settings.staleClaimAge ::
              .claimExpired settings.batchSize ::
                exchanges.map Exchange.call := by
  obtain ⟨released, middle, releases⟩ :=
    Phase.converses_releasing settings backend state
  obtain ⟨claimed, exchanges, outcome, after, claims, follows⟩ :=
    Phase.converses_claiming settings backend middle
  have talk := releases.trans claims
  refine ⟨released, claimed, exchanges, outcome, after, talk.run_eq,
    talk.run_recording [], follows, ?_⟩
  intro other alike
  obtain ⟨history, same, others⟩ := alike.converses talk
  exact ⟨history, others.run_recording [], same⟩

namespace Simulation.Sample

/-- Stores that hand out one file twice and keep the object of the other.
`answer` is what they say to a release or a failed attempt. -/
def stores (answer : Except Report Unit) : Backend Unit where
  answer
    | .releaseStaleClaims _, _ => (answer.map fun _ => 0, ())
    | .claimExpired _, _ => (.ok [expired, permanent, expired], ())
    | .deleteObject _ key, _ =>
      (if key = expired.storageKey then .ok ()
        else .error (.deleteFailed "out of reach"), ())
    | .recordFailedAttempt _, _ => (answer, ())
    | .softDelete _, _ => (.ok (), ())
  tell _ _ := ()

theorem alike_stores (left right : Except Report Unit) :
    (stores left).Alike (stores right) where
  claim _ _ := rfl
  delete _ _ _ := rfl
  softDelete _ _ := rfl
  release _ _ := rfl
  failedAttempt _ _ := rfl
  leftDeaf _ _ := rfl
  rightDeaf _ _ := rfl

end Simulation.Sample

theorem runBatch_protocol_sample :
    (runBatch .standard (Simulation.Sample.stores (.ok ())) ()).1 =
      (runBatch .standard
        (Simulation.Sample.stores (.error (.ofMessage "refused"))).recording
        ((), [])).1 := by
  obtain ⟨_, _, _, _, _, runs, _, _, others⟩ :=
    runBatch_protocol .standard (Simulation.Sample.stores (.ok ())) ()
  obtain ⟨_, otherRuns, _⟩ := others _
    (Simulation.Sample.alike_stores (.ok ()) (.error (.ofMessage "refused")))
  rw [runs, otherRuns]

end FileCleanup
