import FileCleanup.Cleanup.Batch
import FileCleanup.Database.Repository
import FileCleanup.Storage.Memory

namespace FileCleanup.Simulation

/-! The record store of a database beside an object store in memory. -/

structure DatabaseWorld where
  session : Session
  storage : MemoryStorage
  /-- Addresses that the object store was asked to delete. -/
  deletes : List (String × String)

namespace DatabaseWorld

def deleteObject (world : DatabaseWorld) (bucket key : String) :
    Except StorageError Unit × DatabaseWorld :=
  let (answer, storage) := world.storage.delete bucket key
  (answer, { world with storage, deletes := world.deletes ++ [(bucket, key)] })

def answer : (call : Call) → DatabaseWorld → call.Answer × DatabaseWorld
  | .releaseStaleClaims age, world =>
    let (answer, session) := world.session.releaseStaleClaims age
    (answer, { world with session })
  | .claimExpired limit, world =>
    let (answer, session) := world.session.claimExpired limit
    (answer, { world with session })
  | .deleteObject bucket key, world => world.deleteObject bucket key
  | .recordFailedAttempt id, world =>
    let (answer, session) := world.session.recordFailedAttempt id
    (answer, { world with session })
  | .softDelete id, world =>
    let (answer, session) := world.session.softDelete id
    (answer, { world with session })

def tell (event : LogEvent) (world : DatabaseWorld) : DatabaseWorld :=
  { world with session := world.session.tell event }

def backend : Backend DatabaseWorld := ⟨answer, tell⟩

end DatabaseWorld

end FileCleanup.Simulation
