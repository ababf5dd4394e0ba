import FileCleanup.FileTree.Build
import FileCleanup.Simulation.Timeline
import FileCleanup.Time.Clock
import FileCleanup.Worker.Gate

namespace FileCleanup.Simulation

open Time

/-! Named services and workers on one timeline, and the commands that a scenario is made of. -/

structure Worker where
  settings : CleanupSettings
  gate : Gate Nat

structure Scenario where
  timeline : Timeline
  services : List (String × CleanupSettings)
  workers : List (String × Worker)

inductive Command
  | insert (record : FileRecord)
  | put (bucket key : String)
  | failRelease (on : Bool)
  | failClaim (on : Bool)
  | failIncrement (on : Bool)
  | failSoftDelete (id : Uuid)
  | clearStoreFailures
  | failDelete (key : String)
  | clearDeleteFailures
  | setDelay (millis : Nat)
  | advance (millis : Nat)
  | release (age : Span)
  | claim (limit : Int)
  | increment (id : Uuid)
  | softDelete (id : Uuid)
  | delete (bucket key : String)
  | get (id : Uuid)
  | has (bucket key : String)
  | kind
  | calls
  | state
  | service (name : String) (settings : CleanupSettings)
  | batch (service : String)
  | worker (name service : String)
  | start (worker token : String)
  | stop (worker : String)
  | stopTwice (worker : String)
  | cancel (token : String)

/-- Whether the loops go on before the next command.  They do when time passes or a loop begins or
is cancelled; stopping one waits for it anyway. -/
def Command.letsLoopsRun : Command → Bool
  | .start _ _ | .cancel _ | .advance _ => true
  | _ => false

structure Snapshot where
  /-- Ordered by identifier. -/
  records : List FileRecord
  objects : List String

inductive Outcome
  | done
  | flag (value : Bool)
  | released (count : Nat)
  | claimed (records : List FileRecord)
  | storeProblem (problem : StoreProblem)
  | storageProblem (problem : StorageError)
  | record (record : Option FileRecord)
  | kind (kind : StorageKind)
  | calls (softDeleted incremented : List Uuid)
  | snapshot (snapshot : Snapshot)
  | service (batchSize : Int)
  | settingsProblem (problem : SettingsProblem)
  | batch (result : BatchResult)
  | batchProblem (error : CleanupError)
  /-- The command needs the time of day, and the clock shows none. -/
  | clockProblem (fault : ClockFault)
  | stopped (first second : Nat)

namespace Scenario

def start (objects : ObjectStore) : Scenario := ⟨.start objects, [], []⟩

def world (scenario : Scenario) : World := scenario.timeline.world

def withWorld (scenario : Scenario) (world : World) : Scenario :=
  { scenario with timeline.world := world }

def withFaults (scenario : Scenario) (faults : StoreFaults) : Scenario :=
  scenario.withWorld { scenario.world with faults }

/-- The settings of a service, which are the standard ones until it is defined. -/
def serviceNamed (scenario : Scenario) (name : String) : CleanupSettings :=
  (scenario.services.lookup name).getD .standard

/-- Makes sure that a service is defined. -/
def withService (scenario : Scenario) (name : String) : Scenario :=
  { scenario with services := (name, scenario.serviceNamed name) :: scenario.services }

def workerNamed (scenario : Scenario) (name : String) : Worker :=
  (scenario.workers.lookup name).getD ⟨scenario.serviceNamed "main", .closed⟩

def setWorker (scenario : Scenario) (name : String) (worker : Worker) : Scenario :=
  { scenario with workers := (name, worker) :: scenario.workers }

/-- Adds an object. -/
def putObject (objects : ObjectStore) (bucket key : String) : ObjectStore :=
  match objects with
  | .memory storage => .memory (storage.put bucket key)
  | .buckets buckets => .buckets (buckets.put bucket key)
  | .directory storage =>
    .directory { storage with
      tree := storage.tree.addFile storage.here (storage.objectPath bucket key) }

def listing : ObjectStore → List String
  | .memory storage => storage.listing
  | .buckets buckets => buckets.listing
  | .directory storage => storage.tree.listing storage.here

def snapshot (scenario : Scenario) : Snapshot where
  records := scenario.world.store.records.mergeSort fun left right => left.id ≤ right.id
  objects := listing scenario.world.objects

def softDeletedIds (calls : List Call) : List Uuid :=
  calls.filterMap fun
    | .softDelete id => some id
    | _ => none

def incrementedIds (calls : List Call) : List Uuid :=
  calls.filterMap fun
    | .recordFailedAttempt id => some id
    | _ => none

/-- The outcome of one operation of the store. -/
def stored {Value : Type} (scenario : Scenario) (outcome : Value → Outcome)
    (answered : Except StoreProblem Value × World) : Outcome × Scenario :=
  (match answered.1 with
    | .ok value => outcome value
    | .error problem => .storeProblem problem,
    scenario.withWorld answered.2)

/-- A second stop finds an empty slot and returns at once, whenever the first one returns. -/
def stopWorker (scenario : Scenario) (name : String) : Scenario :=
  let worker := scenario.workerNamed name
  let (running, gate) := worker.gate.takeRunning
  let scenario := scenario.setWorker name { worker with gate }
  match running with
  | none => scenario
  | some loop => { scenario with timeline := scenario.timeline.stopLoop loop }

def startWorker (scenario : Scenario) (name token : String) : Bool × Scenario :=
  let worker := scenario.workerNamed name
  let (first, gate) := worker.gate.start scenario.timeline.loops.length
  let scenario := scenario.setWorker name { worker with gate }
  if first then
    (true, { scenario with timeline := scenario.timeline.spawn worker.settings token })
  else (false, { scenario with timeline := scenario.timeline.tell .workerAlreadyStarted })

/-- What a command does by itself. -/
def perform (scenario : Scenario) : Command → Outcome × Scenario
  | .insert record =>
    (.done, scenario.withWorld
      { scenario.world with store := scenario.world.store.insert record })
  | .put bucket key =>
    (.done, scenario.withWorld
      { scenario.world with objects := putObject scenario.world.objects bucket key })
  | .failRelease on => (.done, scenario.withFaults { scenario.world.faults with release := on })
  | .failClaim on => (.done, scenario.withFaults { scenario.world.faults with claim := on })
  | .failIncrement on => (.done, scenario.withFaults { scenario.world.faults with increment := on })
  | .failSoftDelete id =>
    let faults := scenario.world.faults
    (.done, scenario.withFaults { faults with softDelete := id :: faults.softDelete })
  | .clearStoreFailures => (.done, scenario.withFaults .none)
  | .failDelete key =>
    (.done, scenario.withWorld { scenario.world with
      objects := scenario.world.objects.changeMemory (·.failDeletesFor key) })
  | .clearDeleteFailures =>
    (.done, scenario.withWorld { scenario.world with
      objects := scenario.world.objects.changeMemory (·.clearFailures) })
  | .setDelay millis =>
    (.done, scenario.withWorld { scenario.world with
      objects := scenario.world.objects.changeMemory fun storage =>
        { storage with delay := millis } })
  | .advance millis => (.done, { scenario with timeline := scenario.timeline.advance millis })
  | .release age => scenario.stored .released (scenario.world.releaseStaleClaims age)
  | .claim limit => scenario.stored .claimed (scenario.world.claimExpired limit)
  | .increment id => scenario.stored (fun _ => .done) (scenario.world.recordFailedAttempt id)
  | .softDelete id => scenario.stored (fun _ => .done) (scenario.world.softDelete id)
  | .delete bucket key =>
    let (answer, timeline) := scenario.timeline.deleteObject bucket key
    (match answer with
      | .ok () => .done
      | .error problem => .storageProblem problem,
      { scenario with timeline })
  | .get id => (.record (scenario.world.store.get? id), scenario)
  | .has bucket key => (.flag (scenario.world.objects.holds bucket key), scenario)
  | .kind => (.kind scenario.world.objects.kind, scenario)
  | .calls =>
    let calls := scenario.world.journal.calls.toList
    (.calls (softDeletedIds calls) (incrementedIds calls), scenario)
  | .state => (.snapshot scenario.snapshot, scenario)
  | .service name settings =>
    match settings.validate with
    | .ok () =>
      (.service settings.batchSize,
        { scenario with services := (name, settings) :: scenario.services })
    | .error problem => (.settingsProblem problem, scenario)
  | .batch service =>
    let scenario := scenario.withService service
    let (outcome, timeline) :=
      runBatch (scenario.serviceNamed service) Timeline.backend scenario.timeline
    (match outcome with
      | .ok result => .batch result
      | .error error => .batchProblem error,
      { scenario with timeline })
  | .worker name service =>
    let scenario := scenario.withService service
    (.done, scenario.setWorker name ⟨scenario.serviceNamed service, .closed⟩)
  | .start worker token =>
    let (first, scenario) := scenario.startWorker worker token
    (.flag first, scenario)
  | .stop worker => (.done, scenario.stopWorker worker)
  | .stopTwice worker =>
    let second := scenario.world.clock
    let scenario := scenario.stopWorker worker
    (.stopped scenario.world.clock second, scenario)
  | .cancel token => (.done, { scenario with timeline := scenario.timeline.cancelToken token })

/-- Whether a command looks at the clock; an operation that fails or finds nothing to do does
not. -/
def readsClock (scenario : Scenario) (command : Command) : Bool :=
  let store := scenario.world.store
  let faults := scenario.world.faults
  match command with
  | .release _ => !faults.release
  | .claim _ => !faults.claim
  | .increment id => !faults.increment && (store.get? id).isSome
  | .softDelete id => id ∉ faults.softDelete && (store.get? id).any fun record => record.Live
  | .batch _ => !faults.release || !faults.claim
  | _ => false

/-- Does what a command asks for, if the clock does not stand in its way. -/
def attempt (scenario : Scenario) (command : Command) : Outcome × Scenario :=
  match Instant.ofClock scenario.world.clock with
  | .ok _ => scenario.perform command
  | .error fault =>
    if scenario.readsClock command then (.clockProblem fault, scenario)
    else scenario.perform command

/-- A command's outcome and what was called and told meanwhile. -/
structure StepReport where
  outcome : Outcome
  clock : Nat
  calls : List Call
  deletes : List (String × String)
  events : List LogEvent

def step (scenario : Scenario) (command : Command) : StepReport × Scenario :=
  let before := scenario.world.journal
  let (outcome, scenario) := scenario.attempt command
  let scenario :=
    if command.letsLoopsRun then { scenario with timeline := scenario.timeline.settle }
    else scenario
  let after := scenario.world.journal
  (⟨outcome, scenario.world.clock,
      after.calls.toList.drop before.calls.size,
      after.deletes.toList.drop before.deletes.size,
      after.events.toList.drop before.events.size⟩,
    scenario)

end Scenario

end FileCleanup.Simulation
