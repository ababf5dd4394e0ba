import FileCleanup.Cleanup.Error
import FileCleanup.Log
import FileCleanup.Record
import FileCleanup.Settings
import FileCleanup.Time.Stamp

namespace FileCleanup

open Time

/-!
One cleanup batch.  Stale claims are released, expired files are claimed, and then each claimed
file is worked on by itself: its object is deleted and its record marked deleted.  A batch is a
sequence of calls, so that it can be followed, interleaved with others or cut off between any
two of them.
-/

structure BatchResult where
  processed : Nat
  failed : Nat
  deriving DecidableEq, Repr

namespace BatchResult

def none : BatchResult := ⟨0, 0⟩

def isEmpty (result : BatchResult) : Bool :=
  result.processed = 0 && result.failed = 0

def total (result : BatchResult) : Nat :=
  result.processed + result.failed

def withProcessed (result : BatchResult) : BatchResult :=
  { result with processed := result.processed + 1 }

def withFailed (result : BatchResult) : BatchResult :=
  { result with failed := result.failed + 1 }

end BatchResult

/-- What a batch asks of the store of records and of the store of objects. -/
inductive Call
  | releaseStaleClaims (age : Span)
  | claimExpired (limit : Int)
  | deleteObject (bucket key : String)
  | recordFailedAttempt (id : Uuid)
  | softDelete (id : Uuid)
  deriving DecidableEq, Repr

abbrev Call.Answer : Call → Type
  | releaseStaleClaims _ => Except Report Nat
  | claimExpired _ => Except Report (List FileRecord)
  | deleteObject _ _ => Except StorageError Unit
  | recordFailedAttempt _ => Except Report Unit
  | softDelete _ => Except Report Unit

/-- Whatever answers the calls and keeps the log, over states of some kind. -/
structure Backend (State : Type) where
  answer : (call : Call) → State → call.Answer × State
  tell : LogEvent → State → State

def Backend.tellAll {State : Type} (backend : Backend State) (events : List LogEvent)
    (state : State) : State :=
  events.foldl (fun state event => backend.tell event state) state

/-- How far a batch has got: the call it makes next, and the files after the current one. -/
inductive Phase
  | releasing
  | claiming
  | deleting (file : FileRecord) (rest : List FileRecord) (result : BatchResult)
  | recordingFailure (file : FileRecord) (cause : StorageError) (rest : List FileRecord)
      (result : BatchResult)
  | finalizing (file : FileRecord) (rest : List FileRecord) (result : BatchResult)
  | finished (outcome : Except CleanupError BatchResult)

/-! What a batch tells. -/

namespace LogEvent

def serviceTarget : String := "backoffice_infra::cleanup::service"

def processorTarget : String := "backoffice_infra::cleanup::processor"

def releaseFailed (cause : Report) : LogEvent :=
  ⟨.warn, serviceTarget, "Failed to release stale cleanup claims", [("error", .text cause.message)]⟩

def deletingFile (file : FileRecord) : LogEvent :=
  ⟨.debug, processorTarget, "Deleting expired file",
    [("storage_key", .text file.storageKey), ("expires_at", .text (optionText file.expiresAt)),
      ("failed_attempts", .integer file.failedAttempts.toInt)]⟩

def recordingFailed (cause : Report) : LogEvent :=
  ⟨.warn, processorTarget, "Failed to record failed cleanup attempt",
    [("error", .text cause.message)]⟩

def fileFailed (file : FileRecord) (error : CleanupError) : LogEvent :=
  ⟨.error, serviceTarget, "Failed to clean up expired file",
    [("error", .text error.message), ("file_id", .text file.id.text)]⟩

end LogEvent

namespace Phase

/-- The phase that takes up the next file, or ends the batch. -/
def next (result : BatchResult) : List FileRecord → Phase
  | [] => .finished (.ok result)
  | file :: rest => .deleting file rest result

/-- The next call of a batch, what it tells before, and how it goes on after each answer. -/
structure Request where
  call : Call
  announced : List LogEvent
  resume : call.Answer → Phase × List LogEvent

/-- The outcome of a finished batch, or the request that is next. -/
def due (settings : CleanupSettings) : Phase → Except CleanupError BatchResult ⊕ Request
  | .releasing => .inr {
      call := .releaseStaleClaims settings.staleClaimAge
      announced := []
      resume := fun
        | .ok _ => (.claiming, [])
        | .error cause => (.claiming, [.releaseFailed cause]) }
  | .claiming => .inr {
      call := .claimExpired settings.batchSize
      announced := []
      resume := fun
        | .ok files => (next .none files, [])
        | .error cause => (.finished (.error (.claim cause)), []) }
  | .deleting file rest result => .inr {
      call := .deleteObject file.bucket file.storageKey
      announced := [.deletingFile file]
      resume := fun
        | .ok () => (.finalizing file rest result, [])
        | .error cause => (.recordingFailure file cause rest result, []) }
  | .recordingFailure file cause rest result => .inr {
      call := .recordFailedAttempt file.id
      announced := []
      resume := fun answer =>
        let warning := match answer with
          | .ok () => []
          | .error cause => [.recordingFailed cause]
        (next result.withFailed rest, warning ++ [.fileFailed file (.storage file.id cause)]) }
  | .finalizing file rest result => .inr {
      call := .softDelete file.id
      announced := []
      resume := fun
        | .ok () => (next result.withProcessed rest, [])
        | .error cause =>
          (next result.withFailed rest, [.fileFailed file (.finalize file.id cause)]) }
  | .finished outcome => .inl outcome

/-- What is left to do: releasing and claiming come first, then two calls for each file. -/
def remaining : Phase → Nat × Nat
  | .releasing => (2, 0)
  | .claiming => (1, 0)
  | .deleting _ rest _ => (0, 2 * rest.length + 3)
  | .recordingFailure _ _ rest _ => (0, 2 * rest.length + 2)
  | .finalizing _ rest _ => (0, 2 * rest.length + 2)
  | .finished _ => (0, 0)

theorem remaining_next (result : BatchResult) (files : List FileRecord) :
    (next result files).remaining.1 = 0 ∧
      (next result files).remaining.2 ≤ 2 * files.length + 1 := by
  cases files with
  | nil => simp [next, remaining]
  | cons file rest => simp [next, remaining]; omega

theorem remaining_resume {settings : CleanupSettings} {phase : Phase} {request : Request}
    (asks : phase.due settings = .inr request) (answer : request.call.Answer) :
    Prod.Lex (· < ·) (· < ·) (request.resume answer).1.remaining phase.remaining := by
  have onward (result : BatchResult) (files : List FileRecord) :
      Prod.Lex (· < ·) (· < ·) (next result files).remaining (0, 2 * files.length + 2) := by
    have bound := remaining_next result files
    rw [Prod.lex_def]
    exact .inr ⟨bound.1, by show (next result files).remaining.2 < 2 * files.length + 2; omega⟩
  cases phase with
  | releasing =>
    cases asks
    cases answer <;> exact .left _ _ (by decide)
  | claiming =>
    cases asks
    cases answer with
    | ok files =>
      have bound := remaining_next .none files
      rw [Prod.lex_def]
      exact .inl (by show (next BatchResult.none files).remaining.1 < 1; omega)
    | error cause => exact .left _ _ (by decide)
  | deleting file rest result =>
    cases asks
    cases answer <;> exact .right _ (by simp)
  | recordingFailure file cause rest result =>
    cases asks
    exact onward result.withFailed rest
  | finalizing file rest result =>
    cases asks
    cases answer with
    | ok _ => exact onward result.withProcessed rest
    | error cause => exact onward result.withFailed rest
  | finished outcome => cases asks

/-- Makes the next call. -/
def Request.perform {State : Type} (request : Request) (backend : Backend State) (state : State) :
    Phase × State :=
  let (answer, state) := backend.answer request.call (backend.tellAll request.announced state)
  let (phase, events) := request.resume answer
  (phase, backend.tellAll events state)

def step {State : Type} (settings : CleanupSettings) (backend : Backend State) (phase : Phase)
    (state : State) : Phase × State :=
  match phase.due settings with
  | .inl _ => (phase, state)
  | .inr request => request.perform backend state

/-- Makes all calls that are left. -/
def run {State : Type} (settings : CleanupSettings) (backend : Backend State) (phase : Phase)
    (state : State) : Except CleanupError BatchResult × State :=
  match _asks : phase.due settings with
  | .inl outcome => (outcome, state)
  | .inr request =>
    let next := request.perform backend state
    run settings backend next.1 next.2
termination_by phase.remaining
decreasing_by
  exact remaining_resume _asks _

end Phase

/-- Runs one batch from its first call to its last. -/
def runBatch {State : Type} (settings : CleanupSettings) (backend : Backend State) (state : State) :
    Except CleanupError BatchResult × State :=
  Phase.run settings backend .releasing state

end FileCleanup
