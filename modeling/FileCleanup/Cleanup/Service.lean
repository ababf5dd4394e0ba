import FileCleanup.Cleanup.Batch
import FileCleanup.Database.Repository
import FileCleanup.Storage.Create
import FileCleanup.Storage.S3Client

namespace FileCleanup

/-! Cleanup over a database and the object store that the settings name. -/

structure CleanupService where
  session : Session
  storage : OpenStorage

namespace CleanupService

/-- Where an S3 client without an endpoint of its own sends its requests. -/
def standardEndpoint (region : String) : String :=
  "https://s3." ++ region ++ ".amazonaws.com"

def tell (service : CleanupService) (event : LogEvent) : CleanupService :=
  { service with session := service.session.tell event }

def deleteObject (service : CleanupService) (bucket key : String) :
    Except StorageError Unit × CleanupService :=
  match service.storage with
  | .directory storage =>
    let (answer, events, storage) := storage.delete bucket key
    (answer, events.foldl tell { service with storage := .directory storage })
  | .s3 region endpoint =>
    let client : S3Client := ⟨region, endpoint.getD (standardEndpoint region)⟩
    let (answer, events) := client.delete "0ns" bucket key
    (answer, events.foldl tell service)

def answer : (call : Call) → CleanupService → call.Answer × CleanupService
  | .releaseStaleClaims age, service =>
    let (answer, session) := service.session.releaseStaleClaims age
    (answer, { service with session })
  | .claimExpired limit, service =>
    let (answer, session) := service.session.claimExpired limit
    (answer, { service with session })
  | .deleteObject bucket key, service => service.deleteObject bucket key
  | .recordFailedAttempt id, service =>
    let (answer, session) := service.session.recordFailedAttempt id
    (answer, { service with session })
  | .softDelete id, service =>
    let (answer, session) := service.session.softDelete id
    (answer, { service with session })

def backend : Backend CleanupService := ⟨answer, fun event service => service.tell event⟩

end CleanupService

end FileCleanup
