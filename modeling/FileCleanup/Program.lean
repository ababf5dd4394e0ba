import FileCleanup.Cleanup.Service
import FileCleanup.CommandLine
import FileCleanup.Database.Connect
import FileCleanup.Log.Filter
import FileCleanup.Log.Line
import FileCleanup.ServiceError
import FileCleanup.Settings.EnvFile
import FileCleanup.Worker.Log

namespace FileCleanup

/-!
One run of the cleanup program: what it is given, what it tells while it runs, and how it ends.
-/

inductive Signal
  | interrupt
  | terminate
  deriving DecidableEq, Repr

structure Surroundings where
  arguments : List String
  environment : Variables
  /-- The text of the file of further variables, if there is one. -/
  envFile : Option String
  network : Network
  tree : FileTree
  /-- The working directory. -/
  here : Place
  /-- What ends a worker that has been started. -/
  signal : Signal

structure Ending where
  code : Nat
  /-- Lines for the user. -/
  lines : List String
  log : List LogEvent
  format : LogFormat
  errors : String
  tree : FileTree

namespace Ending

def logLines (ending : Ending) : List String :=
  ending.log.map (match ending.format with
    | .text => LogEvent.line
    | .json => LogEvent.jsonLine)

/-- What is printed; the log goes the same way as the lines for the user. -/
def output (ending : Ending) : List String :=
  ending.lines ++ ending.logLines

end Ending

namespace LogEvent

def telemetryTarget : String := "backoffice_infra::telemetry::init_basic"

def programTarget : String := "backoffice_cleanup"

def tracingStarted (format : LogFormat) : LogEvent :=
  ⟨.debug, telemetryTarget, "Tracing initialized",
    [("log_format", .text (match format with
      | .text => "Text"
      | .json => "Json"))]⟩

def tracingEnded : LogEvent := ⟨.debug, telemetryTarget, "Telemetry shutdown", []⟩

def endedWithError (cause : Report) : LogEvent :=
  ⟨.error, programTarget, "Cleanup worker exited with error", [("error", .text cause.message)]⟩

def pendingFiles (count : Int) (settings : Settings) : LogEvent :=
  ⟨.info, programTarget, "Expired files awaiting cleanup",
    [("pending", .integer count), ("environment", .text settings.environment),
      ("storage_backend", .text settings.storage.kind.name)]⟩

def countFailed (cause : Report) : LogEvent :=
  ⟨.warn, programTarget, "Failed to count expired files", [("error", .text cause.message)]⟩

def workerDisabled : LogEvent :=
  ⟨.warn, programTarget, "FILE_CLEANUP_ENABLED=false, not starting cleanup worker", []⟩

def signalReceived : Signal → LogEvent
  | .interrupt => ⟨.info, "backoffice_cli", "Received Ctrl+C signal", []⟩
  | .terminate => ⟨.info, "backoffice_cli", "Received terminate signal", []⟩

def shuttingDown : LogEvent := ⟨.info, programTarget, "Shutting down gracefully...", []⟩

end LogEvent

namespace Program

def storageReport (error : StorageError) : Report :=
  (Report.ofMessage error.message).within "Failed to create storage backend"

/-- Counts the files that wait; a failure is told and no more. -/
def countPending (settings : Settings) (session : Session) : Session :=
  let (result, session) := session.countExpired
  match result with
  | .ok count => session.tell (.pendingFiles count settings)
  | .error cause => session.tell (.countFailed cause)

/-- A worker that is told to stop before its first batch. -/
def workerEvents (settings : CleanupSettings) (signal : Signal) : List LogEvent :=
  [.workerStarted settings, .signalReceived signal, .shuttingDown, .workerStopped]

def treeOf (tree : FileTree) : OpenStorage → FileTree
  | .directory storage => storage.tree
  | .s3 _ _ => tree

/-- What the program is for: one batch, or a worker until it is told to stop. -/
def work (settings : Settings) (once : Bool) (signal : Signal) (service : CleanupService) :
    Except Report Unit × CleanupService :=
  match settings.cleanup.validate with
  | .error problem => (.error (ServiceError.ofProblem problem).report, service)
  | .ok () =>
    if once then
      let (outcome, service) := runBatch settings.cleanup CleanupService.backend service
      match outcome with
      | .ok result =>
        (.ok (), service.tell (.batchCompleted LogEvent.programTarget result))
      | .error error => (.error error.report, service)
    else if settings.cleanup.enabled then
      (.ok (), (workerEvents settings.cleanup signal).foldl CleanupService.tell service)
    else (.ok (), service.tell .workerDisabled)

/-- Connects, opens the object store and goes to work. -/
def serve (settings : Settings) (once : Bool) (environment : Variables) (given : Surroundings) :
    Except SetupFault Unit × List LogEvent × FileTree :=
  match setUpDatabase given.network environment settings.database with
  | (.error fault, events) => (.error fault, events, given.tree)
  | (.ok session, events) =>
    match OpenStorage.create settings.storage given.tree given.here with
    | .error error => (.error (.failed (storageReport error)), events, given.tree)
    | .ok storage =>
      let (result, service) :=
        work settings once given.signal ⟨countPending settings session, storage⟩
      (result.mapError SetupFault.failed, events ++ service.session.events,
        treeOf given.tree service.storage)

/-- The log of a run, as far as its filter lets it through. -/
def logged (environment : Variables) (events : List LogEvent) : List LogEvent :=
  events.filter (LogFilter.ofVariable (environment "RUST_LOG")).passes

def failed (report : Report) (tree : FileTree) : Ending :=
  ⟨1, [], [], .text, report.written, tree⟩

/-- The code of a program that stops at once. -/
def stoppedCode : Nat := 101

/-- Runs with valid settings.  A pool that cannot be made leaves no time to say goodbye. -/
def runWith (settings : Settings) (once : Bool) (environment : Variables) (given : Surroundings) :
    Ending :=
  let (result, events, tree) := serve settings once environment given
  let begun := LogEvent.tracingStarted settings.logFormat :: events
  let ending (code : Nat) (last : List LogEvent) (errors : String) : Ending :=
    ⟨code, [], logged environment (begun ++ last), settings.logFormat, errors, tree⟩
  match result with
  | .ok () => ending 0 [.tracingEnded] ""
  | .error (.failed cause) => ending 1 [.endedWithError cause, .tracingEnded] cause.written
  | .error (.pool fault) => ending stoppedCode [] (fault.message ++ "\n")

/-- Runs with these variables. -/
def runIn (environment : Variables) (once : Bool) (given : Surroundings) : Ending :=
  match Settings.load environment with
  | .error problem =>
    failed ((ServiceError.ofProblem problem).report.within "Failed to load configuration")
      given.tree
  | .ok settings =>
    match settings.validate with
    | .error problem => failed (ServiceError.ofProblem problem).report given.tree
    | .ok () => runWith settings once environment given

def runProgram (once : Bool) (given : Surroundings) : Ending :=
  match given.envFile with
  | none => runIn given.environment once given
  | some text =>
    match EnvFile.load text given.environment with
    | .ok environment => runIn environment once given
    | .error fault => ⟨stoppedCode, [], [], .text, fault.message ++ "\n", given.tree⟩

def run (given : Surroundings) : Ending :=
  match CommandLine.parse given.arguments with
  | .error fault => ⟨2, [], [], .text, fault.text, given.tree⟩
  | .ok .help => ⟨0, CommandLine.helpLines, [], .text, "", given.tree⟩
  | .ok (.run once) => runProgram once given

end Program

end FileCleanup
