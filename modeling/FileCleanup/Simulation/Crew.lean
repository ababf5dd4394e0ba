import FileCleanup.Simulation.Scenario

namespace FileCleanup.Simulation

/-!
Any number of workers on one timeline, and any number of callers that start, stop and cancel them.
A start is one step.  A stop takes three: it takes the loop out of the slot, cancels it, and leaves
when the loop has ended.  Everybody else can make steps in between.
-/

inductive StopStage
  /-- Done with the slot, and with nothing else. -/
  | entered
  /-- The loop is cancelled. -/
  | waiting
  | left
  deriving DecidableEq

/-- A call of stop. -/
structure StopCall where
  worker : Nat
  /-- The loop that was in the slot. -/
  taken : Option Nat
  stage : StopStage
  deriving DecidableEq

/-- A stop that found the slot empty waits for nothing. -/
def StopCall.mayLeave (stop : StopCall) (timeline : Timeline) : Bool :=
  match stop.taken, stop.stage with
  | none, .entered => true
  | some loop, .waiting => timeline.hasStopped loop
  | _, _ => false

namespace Timeline

/-- One of the loops that can go on does so. -/
def turn (timeline : Timeline) (index : Nat) : Timeline :=
  if index ∈ timeline.ready then
    { timeline with ready := timeline.ready.erase index }.runLoop index
  else timeline

/-- Time can pass while no loop can go on, and up to the next end of a timer. -/
def mayPass (timeline : Timeline) (clock : Nat) : Bool :=
  timeline.ready.isEmpty && timeline.world.clock ≤ clock &&
    (timeline.loops.filterMap Loop.timer?).all (clock ≤ ·)

def pass (timeline : Timeline) (clock : Nat) : Timeline :=
  if timeline.mayPass clock then timeline.reach clock else timeline

end Timeline

structure Crew where
  timeline : Timeline
  workers : List Worker
  /-- The worker of each loop. -/
  owners : List Nat
  /-- What the starts have answered, each with the worker that was started. -/
  starts : List (Nat × Bool)
  stops : List StopCall

inductive Action
  /-- There is a new worker. -/
  | hire (settings : CleanupSettings)
  | start (worker : Nat) (token : String)
  /-- A stop begins and empties the slot. -/
  | stop (worker : Nat)
  /-- A stop cancels the loop that it has taken. -/
  | cancelTaken (call : Nat)
  /-- A stop returns, if nothing keeps it. -/
  | leave (call : Nat)
  | cancel (token : String)
  | turn (index : Nat)
  | pass (clock : Nat)
  /-- Others use the stores, or switch failures and delays on and off. -/
  | interfere (world : World)

namespace Crew

def ofWorld (world : World) : Crew := ⟨⟨world, [], [], [], 0⟩, [], [], [], []⟩

def clock (crew : Crew) : Nat := crew.timeline.world.clock

def start (crew : Crew) (worker : Nat) (token : String) : Crew :=
  match crew.workers[worker]? with
  | none => crew
  | some employed =>
    let (first, gate) := employed.gate.start crew.timeline.loops.length
    let crew := { crew with
      workers := crew.workers.set worker { employed with gate }
      starts := crew.starts ++ [(worker, first)] }
    if first then
      { crew with
        timeline := crew.timeline.spawn employed.settings token
        owners := crew.owners ++ [worker] }
    else { crew with timeline := crew.timeline.tell .workerAlreadyStarted }

def stop (crew : Crew) (worker : Nat) : Crew :=
  match crew.workers[worker]? with
  | none => crew
  | some employed =>
    let (taken, gate) := employed.gate.takeRunning
    { crew with
      workers := crew.workers.set worker { employed with gate }
      stops := crew.stops ++ [⟨worker, taken, .entered⟩] }

def cancelTaken (crew : Crew) (call : Nat) : Crew :=
  match crew.stops[call]? with
  | some ⟨worker, some loop, .entered⟩ =>
    { crew with
      timeline := crew.timeline.cancelLoops fun index _ => index = loop
      stops := crew.stops.set call ⟨worker, some loop, .waiting⟩ }
  | _ => crew

def leave (crew : Crew) (call : Nat) : Crew :=
  match crew.stops[call]? with
  | none => crew
  | some stop =>
    if stop.mayLeave crew.timeline then
      { crew with stops := crew.stops.set call { stop with stage := .left } }
    else crew

def step (crew : Crew) : Action → Crew
  | .hire settings => { crew with workers := crew.workers ++ [⟨settings, .closed⟩] }
  | .start worker token => crew.start worker token
  | .stop worker => crew.stop worker
  | .cancelTaken call => crew.cancelTaken call
  | .leave call => crew.leave call
  | .cancel token => { crew with timeline := crew.timeline.cancelToken token }
  | .turn index => { crew with timeline := crew.timeline.turn index }
  | .pass clock => { crew with timeline := crew.timeline.pass clock }
  | .interfere world =>
    { crew with timeline.world := { world with clock := crew.timeline.world.clock } }

def run (crew : Crew) (actions : List Action) : Crew :=
  actions.foldl step crew

end Crew

end FileCleanup.Simulation
