import FileCleanup.Cleanup.Batch
import FileCleanup.RecordStore
import FileCleanup.Storage.Buckets
import FileCleanup.Storage.Local
import FileCleanup.Storage.Memory

namespace FileCleanup.Simulation

open Time

/-!
A record store and an object store on one clock, whose timers count milliseconds and move only
when a delete takes time.  A journal keeps what was called and told.
-/

inductive ObjectStore
  | memory (storage : MemoryStorage)
  | directory (storage : LocalStorage)
  | buckets (buckets : Buckets)

def ObjectStore.kind : ObjectStore → StorageKind
  | memory storage => storage.kind
  | directory _ => .directory
  | buckets _ => .s3

def ObjectStore.holds (objects : ObjectStore) (bucket key : String) : Bool :=
  match objects with
  | memory storage => storage.Holds bucket key
  | buckets service => service.Holds bucket (.ofKey key)
  | directory storage =>
    (storage.tree.canonical storage.here (storage.objectPath bucket key)).isOk

/-- Milliseconds that a delete takes. -/
def ObjectStore.delay : ObjectStore → Nat
  | memory storage => storage.delay
  | directory _ => 0
  | buckets _ => 0

/-- Changes a store in memory; any other store stays as it is. -/
def ObjectStore.changeMemory (objects : ObjectStore) (change : MemoryStorage → MemoryStorage) :
    ObjectStore :=
  match objects with
  | memory storage => .memory (change storage)
  | other => other

structure Journal where
  /-- Calls of the record store. -/
  calls : Array Call
  /-- Addresses that the store in memory was asked to delete. -/
  deletes : Array (String × String)
  events : Array LogEvent

def Journal.empty : Journal := ⟨#[], #[], #[]⟩

structure World where
  /-- What the wall clock shows when the timers begin to count. -/
  origin : Instant
  /-- Milliseconds that the timers have counted. -/
  clock : Nat
  store : RecordStore
  faults : StoreFaults
  objects : ObjectStore
  journal : Journal

namespace World

def start (objects : ObjectStore) : World :=
  ⟨.base, 0, .empty, .none, objects, .empty⟩

def now (world : World) : Instant :=
  world.origin.later world.clock

def tell (event : LogEvent) (world : World) : World :=
  { world with journal.events := world.journal.events.push event }

def noteCall (world : World) (call : Call) : World :=
  { world with journal.calls := world.journal.calls.push call }

/-- Takes over the store of a successful operation. -/
def storeAnswer {Value : Type} (world : World)
    (result : Except StoreProblem (Value × RecordStore)) : Except StoreProblem Value × World :=
  match result with
  | .ok (value, store) => (.ok value, { world with store })
  | .error problem => (.error problem, world)

def releaseStaleClaims (world : World) (age : Span) : Except StoreProblem Nat × World :=
  (world.noteCall (.releaseStaleClaims age)).storeAnswer
    (world.store.releaseStaleClaims world.faults world.now age)

def claimExpired (world : World) (limit : Int) : Except StoreProblem (List FileRecord) × World :=
  (world.noteCall (.claimExpired limit)).storeAnswer
    (world.store.claimExpired world.faults world.now limit)

def recordFailedAttempt (world : World) (id : Uuid) : Except StoreProblem Unit × World :=
  (world.noteCall (.recordFailedAttempt id)).storeAnswer
    ((world.store.recordFailedAttempt world.faults world.now id).map (((), ·)))

def softDelete (world : World) (id : Uuid) : Except StoreProblem Unit × World :=
  (world.noteCall (.softDelete id)).storeAnswer
    ((world.store.softDelete world.faults world.now id).map (((), ·)))

/-- Begins to delete an object, which then takes the store's delay. -/
def beginDelete (world : World) (bucket key : String) : World :=
  match world.objects with
  | .memory _ => { world with journal.deletes := world.journal.deletes.push (bucket, key) }
  | _ => world

/-- What a delete does when its time is over. -/
def finishDelete (world : World) (bucket key : String) : Except StorageError Unit × World :=
  match world.objects with
  | .memory storage =>
    let (answer, storage) := storage.delete bucket key
    (answer, { world with objects := .memory storage })
  | .directory storage =>
    let (answer, events, storage) := storage.delete bucket key
    (answer, events.foldl (fun world event => world.tell event)
      { world with objects := .directory storage })
  | .buckets buckets =>
    let (answer, events, buckets) := buckets.delete bucket key
    (answer, events.foldl (fun world event => world.tell event)
      { world with objects := .buckets buckets })

def deleteObject (world : World) (bucket key : String) : Except StorageError Unit × World :=
  let world := world.beginDelete bucket key
  { world with clock := world.clock + world.objects.delay }.finishDelete bucket key

/-- An answer of the store as a batch sees it. -/
def reported {Value : Type} (answered : Except StoreProblem Value × World) :
    Except Report Value × World :=
  (answered.1.mapError fun problem => .ofMessage problem.message, answered.2)

def answer : (call : Call) → World → call.Answer × World
  | .releaseStaleClaims age, world => reported (world.releaseStaleClaims age)
  | .claimExpired limit, world => reported (world.claimExpired limit)
  | .deleteObject bucket key, world => world.deleteObject bucket key
  | .recordFailedAttempt id, world => reported (world.recordFailedAttempt id)
  | .softDelete id, world => reported (world.softDelete id)

/-- The stores of a world answer a batch that has them for itself. -/
def backend : Backend World := ⟨answer, tell⟩

theorem tellAll_eq (events : List LogEvent) (world : World) :
    backend.tellAll events world =
      { world with journal.events := world.journal.events ++ events.toArray } := by
  induction events generalizing world with
  | nil => simp [Backend.tellAll]
  | cons event events induction =>
    change backend.tellAll events (world.tell event) = _
    rw [induction]
    simp [tell]

@[simp] theorem store_tellAll (events : List LogEvent) (world : World) :
    (backend.tellAll events world).store = world.store := by
  rw [tellAll_eq]

/-! The records are as many after a release, and a claim hands out no more files. -/

theorem length_release (world : World) (age : Span) :
    (answer (.releaseStaleClaims age) world).2.store.records.length =
      world.store.records.length := by
  simp only [answer, reported, releaseStaleClaims]
  cases releases : world.store.releaseStaleClaims world.faults world.now age with
  | ok released => exact RecordStore.length_of_release releases
  | error problem => rfl

theorem length_claimed_le {world : World} {limit : Int} {files : List FileRecord}
    (claims : (answer (.claimExpired limit) world).1 = .ok files) :
    files.length ≤ world.store.records.length := by
  simp only [answer, reported, claimExpired, RecordStore.claimExpired] at claims
  split at claims
  · cases claims
  · cases claims
    rw [List.length_map]
    exact world.store.length_candidates_le _ _

end World

end FileCleanup.Simulation
