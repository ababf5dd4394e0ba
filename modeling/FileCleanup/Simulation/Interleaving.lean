import FileCleanup.Simulation.World

namespace FileCleanup.Simulation

open Time

/-!
Any number of batches on one world, their calls in any order.  A delete takes two moves, since it
can take time.  Between any two moves failures can be switched on and off, time can pass, and
others can use the stores as well.
-/

/-- How far a batch has got, also inside a delete. -/
inductive Stage
  | between (phase : Phase)
  /-- The delete of `file` has begun. -/
  | deleting (file : FileRecord) (rest : List FileRecord) (result : BatchResult)

/-- A batch that is under way. -/
structure Flight where
  settings : CleanupSettings
  stage : Stage

namespace Stage

/-- The files that a batch has claimed and has not finished with. -/
def files : Stage → List FileRecord
  | .between (.deleting file rest _) => file :: rest
  | .between (.recordingFailure file _ rest _) => file :: rest
  | .between (.finalizing file rest _) => file :: rest
  | .between _ => []
  | .deleting file rest _ => file :: rest

/-- How a batch goes on after a delete. -/
def afterDelete (file : FileRecord) (rest : List FileRecord) (result : BatchResult) :
    Except StorageError Unit → Stage
  | .ok () => .between (.finalizing file rest result)
  | .error cause => .between (.recordingFailure file cause rest result)

end Stage

namespace Flight

def launched (settings : CleanupSettings) : Flight := ⟨settings, .between .releasing⟩

/-- Makes the next call, begins the next delete, or ends the delete that has begun. -/
def step (flight : Flight) (world : World) : Flight × World :=
  match flight.stage with
  | .between (.deleting file rest result) =>
    ({ flight with stage := .deleting file rest result },
      (world.tell (.deletingFile file)).beginDelete file.bucket file.storageKey)
  | .between phase =>
    let (phase, world) := phase.step flight.settings World.backend world
    ({ flight with stage := .between phase }, world)
  | .deleting file rest result =>
    let (answer, world) := world.finishDelete file.bucket file.storageKey
    ({ flight with stage := .afterDelete file rest result answer }, world)

end Flight

structure Interleaving where
  world : World
  flights : List Flight

inductive Move
  | launch (settings : CleanupSettings)
  /-- The next step of one of the batches. -/
  | proceed (index : Nat)
  /-- A call of somebody else. -/
  | call (call : Call)
  | tell (event : LogEvent)
  | switchFaults (faults : StoreFaults)
  | switchDeletes (failingKeys : List String) (delay : Nat)
  /-- New readings of the clocks. -/
  | passTime (origin : Instant) (clock : Nat)

namespace Interleaving

def ofWorld (world : World) : Interleaving := ⟨world, []⟩

/-- One batch that has not made a call yet. -/
def ofBatch (settings : CleanupSettings) (world : World) : Interleaving :=
  ⟨world, [.launched settings]⟩

def step (state : Interleaving) : Move → Interleaving
  | .launch settings => { state with flights := state.flights ++ [.launched settings] }
  | .proceed index =>
    match state.flights[index]? with
    | none => state
    | some flight =>
      let (flight, world) := flight.step state.world
      ⟨world, state.flights.set index flight⟩
  | .call call => { state with world := (World.answer call state.world).2 }
  | .tell event => { state with world := state.world.tell event }
  | .switchFaults faults => { state with world.faults := faults }
  | .switchDeletes failingKeys delay =>
    { state with world.objects := state.world.objects.changeMemory fun storage =>
        { storage with failingKeys, delay } }
  | .passTime origin clock => { state with world.origin := origin, world.clock := clock }

def run (state : Interleaving) (moves : List Move) : Interleaving :=
  moves.foldl step state

/-- Nobody but the batches that are under way makes a move. -/
structure Unaided (moves : List Move) : Prop where
  launches : ∀ settings, .launch settings ∉ moves
  calls : ∀ call, .call call ∉ moves

/-- The wall clock never goes back during a run. -/
def Forward (state : Interleaving) : List Move → Prop
  | [] => True
  | move :: moves =>
    state.world.now ≤ (state.step move).world.now ∧ (state.step move).Forward moves

instance decidableForward : (state : Interleaving) → (moves : List Move) →
    Decidable (state.Forward moves)
  | _, [] => .isTrue trivial
  | state, move :: moves =>
    have := decidableForward (state.step move) moves
    inferInstanceAs (Decidable (_ ∧ _))

/-- A move puts `record` under a lease. -/
def Claims (state : Interleaving) (move : Move) (record : FileRecord) : Prop :=
  record ∈ state.world.store.records ∧ record.claimedAt = none ∧
    ∃ later ∈ (state.step move).world.store.records,
      later.id = record.id ∧ later.claimedAt ≠ none

/-- Some move of a run claims `record`, at the instant that the clock shows then. -/
def ClaimedDuring (state : Interleaving) (moves : List Move) (instant : Instant)
    (record : FileRecord) : Prop :=
  ∃ earlier move later, moves = earlier ++ move :: later ∧
    instant = (state.run earlier).world.now ∧ (state.run earlier).Claims move record

end Interleaving

end FileCleanup.Simulation
