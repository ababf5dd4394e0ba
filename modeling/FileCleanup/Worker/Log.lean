import FileCleanup.Cleanup.Batch

namespace FileCleanup

/-! What a worker tells. -/

namespace LogEvent

def workerTarget : String := "backoffice_infra::cleanup::worker"

def workerStarted (settings : CleanupSettings) : LogEvent :=
  ⟨.info, workerTarget, "Cleanup worker started",
    [("interval_secs", .integer settings.intervalSeconds),
      ("batch_size", .integer settings.batchSize)]⟩

def workerAlreadyStarted : LogEvent :=
  ⟨.debug, workerTarget, "Cleanup worker already started", []⟩

def workerStopped : LogEvent :=
  ⟨.info, workerTarget, "Cleanup worker stopped", []⟩

def batchCompleted (target : String) (result : BatchResult) : LogEvent :=
  ⟨.info, target, "Cleanup batch completed",
    [("processed", .integer result.processed), ("failed", .integer result.failed)]⟩

def batchFailed (error : CleanupError) : LogEvent :=
  ⟨.error, workerTarget, "Cleanup batch failed", [("error", .text error.message)]⟩

/-- What a worker tells of a batch: nothing if there was nothing to do. -/
def ofOutcome : Except CleanupError BatchResult → List LogEvent
  | .ok result => if result.isEmpty then [] else [batchCompleted workerTarget result]
  | .error error => [batchFailed error]

end LogEvent

end FileCleanup
