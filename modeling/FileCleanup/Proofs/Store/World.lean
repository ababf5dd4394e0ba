import FileCleanup.Proofs.Store.Change

namespace FileCleanup.Simulation

open Time

/-! The stores of a world, seen through the calls that it answers. -/

/-- Two worlds that differ at most in their records, the calls of the record
store and what was told. -/
structure World.Beside (before after : World) : Prop where
  origin : after.origin = before.origin
  clock : after.clock = before.clock
  faults : after.faults = before.faults
  objects : after.objects = before.objects
  deletes : after.journal.deletes = before.journal.deletes

namespace World

namespace Beside

theorem trans {first second third : World} (left : Beside first second)
    (right : Beside second third) : Beside first third :=
  ⟨right.origin.trans left.origin, right.clock.trans left.clock,
    right.faults.trans left.faults, right.objects.trans left.objects,
    right.deletes.trans left.deletes⟩

theorem now {before after : World} (beside : Beside before after) :
    after.now = before.now := by
  rw [World.now, World.now, beside.origin, beside.clock]

end Beside

theorem beside_tellAll (events : List LogEvent) (world : World) :
    Beside world (backend.tellAll events world) := by
  rw [tellAll_eq]
  exact ⟨rfl, rfl, rfl, rfl, rfl⟩

@[simp] theorem store_beginDelete (world : World) (bucket key : String) :
    (world.beginDelete bucket key).store = world.store := by
  unfold beginDelete
  split <;> rfl

private theorem store_foldl_tell (events : List LogEvent) (world : World) :
    (events.foldl (fun world event => world.tell event) world).store =
      world.store :=
  store_tellAll events world

@[simp] theorem store_finishDelete (world : World) (bucket key : String) :
    (world.finishDelete bucket key).2.store = world.store := by
  unfold finishDelete
  split
  · rfl
  · exact store_foldl_tell ..
  · exact store_foldl_tell ..

theorem store_answer (call : Call) (world : World) :
    (answer call world).2.store =
      world.store.afterCall world.faults world.now call := by
  cases call with
  | releaseStaleClaims age =>
      simp only [answer, reported, releaseStaleClaims, storeAnswer,
        RecordStore.afterCall]
      split <;> simp_all [noteCall]
  | claimExpired limit =>
      simp only [answer, reported, claimExpired, storeAnswer,
        RecordStore.afterCall]
      split <;> simp_all [noteCall]
  | deleteObject bucket key =>
      simp [answer, deleteObject, RecordStore.afterCall]
  | recordFailedAttempt id =>
      simp only [answer, reported, recordFailedAttempt, storeAnswer,
        RecordStore.afterCall]
      cases world.store.recordFailedAttempt world.faults world.now id <;>
        simp [noteCall, Except.map]
  | softDelete id =>
      simp only [answer, reported, softDelete, storeAnswer,
        RecordStore.afterCall]
      cases world.store.softDelete world.faults world.now id <;>
        simp [noteCall, Except.map]

theorem answer_claimExpired (limit : Int) (world : World) :
    (answer (.claimExpired limit) world).1 =
      if world.faults.claim then
        .error (.ofMessage StoreProblem.claimFailed.message)
      else
        .ok ((world.store.candidates world.now limit).map
          (·.claimed world.now)) := by
  cases faulty : world.faults.claim <;>
    simp [answer, claimExpired, RecordStore.claimExpired, faulty, storeAnswer,
      reported, noteCall, Except.mapError, World.now]

private theorem beside_storeAnswer {Value : Type} (world : World) (call : Call)
    (result : Except StoreProblem (Value × RecordStore)) :
    Beside world ((world.noteCall call).storeAnswer result).2 := by
  cases result <;> exact ⟨rfl, rfl, rfl, rfl, rfl⟩

theorem beside_answer {call : Call} (world : World)
    (stored : ∀ bucket key, call ≠ .deleteObject bucket key) :
    Beside world (answer call world).2 := by
  cases call with
  | deleteObject bucket key => exact absurd rfl (stored bucket key)
  | releaseStaleClaims age => exact beside_storeAnswer ..
  | claimExpired limit => exact beside_storeAnswer ..
  | recordFailedAttempt id => exact beside_storeAnswer ..
  | softDelete id => exact beside_storeAnswer ..

variable {settings : CleanupSettings} {phase : Phase}

theorem store_perform (request : Phase.Request) (world : World) :
    (request.perform backend world).2.store =
      world.store.afterCall world.faults world.now request.call := by
  have told := beside_tellAll request.announced world
  change (backend.tellAll _ (answer request.call
    (backend.tellAll request.announced world)).2).store = _
  rw [store_tellAll, store_answer, store_tellAll, told.faults, told.now]

theorem beside_perform (request : Phase.Request) (world : World)
    (stored : ∀ bucket key, request.call ≠ .deleteObject bucket key) :
    Beside world (request.perform backend world).2 :=
  ((beside_tellAll request.announced world).trans
    (beside_answer _ stored)).trans (beside_tellAll _ _)

end World

/-! Small worlds for examples. -/

namespace Sample

def file (id : Nat) (key : String) (expiresAt : Option Instant) : FileRecord where
  id := .ofNat id
  tenant := .ofNat 9
  bucket := "uploads"
  storageKey := key
  originalFilename := key
  contentType := "text/plain"
  fileSize := 1
  expiresAt := expiresAt
  deletedAt := none
  claimedAt := none
  failedAttempts := 0
  createdAt := .base
  updatedAt := .base

def expired : FileRecord := file 1 "a.txt" (some .base)

def permanent : FileRecord := file 2 "b.txt" none

def storage : MemoryStorage where
  kind := .directory
  objects := [expired.address, permanent.address]
  failingKeys := []
  delay := 0

/-- Of the two files here one has expired. -/
def world : World :=
  { World.start (.memory storage) with
    store := ⟨[expired, permanent], by decide⟩ }

def late : FileRecord := file 3 "c.txt" (some .base)

def slowStorage : MemoryStorage := { storage with delay := 5 }

/-- Both files here have expired, and a delete takes its time. -/
def pair : World :=
  { World.start (.memory slowStorage) with
    store := ⟨[expired, late], by decide⟩ }

end Sample

end FileCleanup.Simulation
