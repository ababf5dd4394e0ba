import FileCleanup.Simulation.World
import FileCleanup.Worker.Log
import FileCleanup.Worker.Ticker

namespace FileCleanup.Simulation

/-!
Worker loops beside each other on the clock of one world.  Each loop waits for its ticks, runs a
batch at each, and ends once it is cancelled, though never inside a batch.
-/

inductive Activity
  | starting
  | waiting
  /-- Inside a batch, asleep in the delete of `file` until `wake`. -/
  | deleting (wake ticket : Nat) (file : FileRecord) (rest : List FileRecord)
    (result : BatchResult)
  | stopped

structure Loop where
  settings : CleanupSettings
  /-- The token that the loop was started with. -/
  token : String
  cancelled : Bool
  ticker : Ticker
  /-- Of timers that end together, the one with the lower ticket is served first; this is the
  ticket of the next tick. -/
  ticket : Nat
  activity : Activity

/-! Batches that stop at the first delete that takes time. -/

inductive Progress
  | finished (outcome : Except CleanupError BatchResult)
  | asleep (delay : Nat) (file : FileRecord) (rest : List FileRecord) (result : BatchResult)

/-- How many calls a batch still makes at most over `world`: a claim hands out no more files than
there are records. -/
def callsLeft (world : World) : Phase → Nat
  | .releasing => 2 * world.store.records.length + 2
  | .claiming => 2 * world.store.records.length + 1
  | .deleting _ rest _ => 2 * rest.length + 2
  | .recordingFailure _ _ rest _ => 2 * rest.length + 1
  | .finalizing _ rest _ => 2 * rest.length + 1
  | .finished _ => 0

theorem callsLeft_next_lt (world : World) (result : BatchResult) (files : List FileRecord) :
    callsLeft world (.next result files) < 2 * files.length + 1 := by
  cases files with
  | nil => exact Nat.succ_pos _
  | cons file rest => exact Nat.lt_succ_self (2 * rest.length + 2)

theorem callsLeft_perform {settings : CleanupSettings} {phase : Phase} {request : Phase.Request}
    (world : World) (asks : phase.due settings = .inr request) :
    callsLeft (request.perform World.backend world).2 (request.perform World.backend world).1 <
      callsLeft world phase := by
  let answered := World.answer request.call (World.backend.tellAll request.announced world)
  change callsLeft (World.backend.tellAll _ answered.2) (request.resume answered.1).1 < _
  cases phase with
  | releasing =>
    cases asks
    have records : answered.2.store.records.length = world.store.records.length :=
      world.length_release settings.staleClaimAge
    cases answered.1 <;> simp [callsLeft, records]
  | claiming =>
    cases asks
    cases claims : answered.1 with
    | ok files =>
      have bound : files.length ≤ world.store.records.length := World.length_claimed_le claims
      have room : 2 * files.length + 1 ≤ 2 * world.store.records.length + 1 := by omega
      exact Nat.lt_of_lt_of_le (callsLeft_next_lt _ .none files) room
    | error cause => exact Nat.succ_pos _
  | deleting file rest result =>
    cases asks
    cases answered.1 <;> exact Nat.lt_succ_self _
  | recordingFailure file cause rest result =>
    cases asks
    exact callsLeft_next_lt _ _ rest
  | finalizing file rest result =>
    cases asks
    cases answered.1 <;> exact callsLeft_next_lt _ _ rest
  | finished outcome => cases asks

/-- Makes calls until a delete takes time or the batch is finished. -/
def proceed (settings : CleanupSettings) (phase : Phase) (world : World) : Progress × World :=
  match _asks : phase.due settings with
  | .inl outcome => (.finished outcome, world)
  | .inr request =>
    match phase with
    | .deleting file rest result =>
      if world.objects.delay = 0 then
        let next := request.perform World.backend world
        proceed settings next.1 next.2
      else
        (.asleep world.objects.delay file rest result,
          (World.backend.tellAll request.announced world).beginDelete file.bucket file.storageKey)
    | _ =>
      let next := request.perform World.backend world
      proceed settings next.1 next.2
termination_by callsLeft world phase
decreasing_by all_goals exact callsLeft_perform world _asks

/-- Goes on after a delete whose time is over. -/
def wakeUp (settings : CleanupSettings) (file : FileRecord) (rest : List FileRecord)
    (result : BatchResult) (world : World) : Progress × World :=
  let (answer, world) := world.finishDelete file.bucket file.storageKey
  match answer with
  | .ok () => proceed settings (.finalizing file rest result) world
  | .error cause => proceed settings (.recordingFailure file cause rest result) world

structure Timeline where
  world : World
  loops : List Loop
  /-- The places of the loops that can go on, first come first served. -/
  ready : List Nat
  /-- Tokens that are cancelled for good. -/
  cancelled : List String
  tickets : Nat

namespace Loop

/-- When the timer ends that the loop waits for. -/
def timer? (loop : Loop) : Option Nat :=
  match loop.activity with
  | .waiting => some loop.ticker.due
  | .deleting wake _ _ _ _ => some wake
  | .starting | .stopped => none

/-- The ticket of the timer that the loop waits for. -/
def timerTicket (loop : Loop) : Nat :=
  match loop.activity with
  | .deleting _ ticket _ _ _ => ticket
  | _ => loop.ticket

/-- A waiting loop goes on as soon as it is cancelled; any other one finds out later. -/
def isWaiting (loop : Loop) : Bool :=
  match loop.activity with
  | .waiting => true
  | _ => false

def isStopped (loop : Loop) : Bool :=
  match loop.activity with
  | .stopped => true
  | _ => false

def stop (loop : Loop) (world : World) : Loop × World :=
  ({ loop with activity := .stopped }, world.tell .workerStopped)

/-- Takes up what a batch came to: the loop falls asleep with it, or waits for its next tick. -/
def settle (loop : Loop) (ticket : Nat) (progress : Progress × World) : Loop × World :=
  match progress.1 with
  | .asleep delay file rest result =>
    ({ loop with activity := .deleting (progress.2.clock + delay) ticket file rest result },
      progress.2)
  | .finished outcome =>
    ({ loop with activity := .waiting },
      World.backend.tellAll (LogEvent.ofOutcome outcome) progress.2)

/-- Between two batches: ends, begins the batch whose tick is due, or goes on waiting. -/
def between (loop : Loop) (ticket : Nat) (world : World) : Loop × World :=
  if loop.cancelled then loop.stop world
  else if loop.ticker.due ≤ world.clock then
    { loop with ticker := loop.ticker.taken world.clock, ticket }.settle ticket
      (proceed loop.settings .releasing world)
  else (loop, world)

/-- Does what is due, up to the next wait. -/
def run (loop : Loop) (ticket : Nat) (world : World) : Loop × World :=
  match loop.activity with
  | .stopped => (loop, world)
  | .starting =>
    let ticker := Ticker.start world.clock (loop.settings.intervalSeconds * 1000)
    { loop with ticker, ticket, activity := .waiting }.between ticket
      (world.tell (.workerStarted loop.settings))
  | .waiting => loop.between ticket world
  | .deleting _ _ file rest result =>
    let (loop, world) := loop.settle ticket (wakeUp loop.settings file rest result world)
    match loop.activity with
    | .waiting => loop.between ticket world
    | _ => (loop, world)

end Loop

namespace Timeline

def start (objects : ObjectStore) : Timeline := ⟨.start objects, [], [], [], 0⟩

def runLoop (timeline : Timeline) (index : Nat) : Timeline :=
  match timeline.loops[index]? with
  | none => timeline
  | some loop =>
    let (loop, world) := loop.run timeline.tickets timeline.world
    { timeline with
      world, loops := timeline.loops.set index loop, tickets := timeline.tickets + 1 }

/-- Lets all loops go on that can; none of them makes another one ready. -/
def settle (timeline : Timeline) : Timeline :=
  timeline.ready.foldl runLoop { timeline with ready := [] }

/-- When the next timer ends. -/
def nextTimer? (timeline : Timeline) : Option Nat :=
  (timeline.loops.filterMap Loop.timer?).min?

/-- Moves the clock on.  The loops whose timers have ended by then are ready, in the order in
which the timers were set. -/
def reach (timeline : Timeline) (time : Nat) : Timeline :=
  let ended := timeline.loops.zipIdx.filter fun (loop, _) =>
    match loop.timer? with
    | some ending => ending ≤ time
    | none => false
  let order := ended.mergeSort fun (left, _) (right, _) => left.timerTicket ≤ right.timerTicket
  { timeline with
    world.clock := time, ready := timeline.ready ++ order.map (·.2) }

/-- Lets loops go on from `now` and time pass up to `limit`, until `enough` holds. -/
def passFrom (enough : Timeline → Bool) (now limit : Nat) (timeline : Timeline) : Timeline :=
  let timeline := timeline.settle
  if enough timeline then timeline
  else
    match timeline.nextTimer? with
    | none => timeline
    | some time =>
      if now < time ∧ time ≤ limit then passFrom enough time limit (timeline.reach time)
      else timeline
termination_by limit - now

/-- Lets time pass outside of all loops.  What is due just when it ends is ready then and has yet
to happen. -/
def sleep (timeline : Timeline) (millis : Nat) : Timeline :=
  let now := timeline.world.clock
  (timeline.passFrom (fun _ => false) now (now + millis - 1)).reach (now + millis)

/-- Lets time pass, with everything that is due up to and including the new instant. -/
def advance (timeline : Timeline) (millis : Nat) : Timeline :=
  (timeline.sleep millis).settle

def tell (event : LogEvent) (timeline : Timeline) : Timeline :=
  { timeline with world := timeline.world.tell event }

def deleteObject (timeline : Timeline) (bucket key : String) :
    Except StorageError Unit × Timeline :=
  let timeline := { timeline with world := timeline.world.beginDelete bucket key }
  let delay := timeline.world.objects.delay
  let timeline := if delay = 0 then timeline else timeline.sleep delay
  let (answer, world) := timeline.world.finishDelete bucket key
  (answer, { timeline with world })

def answer (call : Call) (timeline : Timeline) : call.Answer × Timeline :=
  match call with
  | .deleteObject bucket key => timeline.deleteObject bucket key
  | call =>
    let (answer, world) := World.answer call timeline.world
    (answer, { timeline with world })

/-- A batch outside all loops, which go on while it waits. -/
def backend : Backend Timeline := ⟨answer, tell⟩

/-! Starting and ending loops. -/

def isCancelled (timeline : Timeline) (token : String) : Bool :=
  timeline.cancelled.contains token

def spawn (timeline : Timeline) (settings : CleanupSettings) (token : String) : Timeline :=
  let loop := ⟨settings, token, timeline.isCancelled token, ⟨0, 0⟩, timeline.tickets, .starting⟩
  { timeline with
    loops := timeline.loops ++ [loop], ready := timeline.ready ++ [timeline.loops.length],
    tickets := timeline.tickets + 1 }

/-- Cancels some of the loops. -/
def cancelLoops (timeline : Timeline) (chosen : Nat → Loop → Bool) : Timeline :=
  let woken := timeline.loops.zipIdx.filter fun (loop, index) =>
    chosen index loop && loop.isWaiting && !timeline.ready.contains index
  { timeline with
    loops := timeline.loops.mapIdx fun index loop =>
      if chosen index loop then { loop with cancelled := true } else loop
    ready := timeline.ready ++ woken.map (·.2) }

def cancelToken (timeline : Timeline) (token : String) : Timeline :=
  { timeline.cancelLoops (fun _ loop => loop.token = token) with
    cancelled := token :: timeline.cancelled }

def hasStopped (timeline : Timeline) (index : Nat) : Bool :=
  match timeline.loops[index]? with
  | some loop => loop.isStopped
  | none => true

/-- When a cancelled loop will have ended at the latest: the deletes of its batch take as long as
deletes take now. -/
def endOf (timeline : Timeline) (index : Nat) : Nat :=
  match timeline.loops[index]? with
  | some ⟨_, _, _, _, _, .deleting wake _ _ rest _⟩ =>
    wake + rest.length * timeline.world.objects.delay
  | _ => timeline.world.clock

/-- Cancels a loop and lets time pass until it has ended. -/
def stopLoop (timeline : Timeline) (index : Nat) : Timeline :=
  if timeline.hasStopped index then timeline
  else
    (timeline.cancelLoops fun other _ => other = index).passFrom (·.hasStopped index)
      timeline.world.clock (timeline.endOf index)

end Timeline

end FileCleanup.Simulation
