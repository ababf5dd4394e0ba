import FileCleanup.Log
import FileCleanup.Storage.Address
import FileCleanup.Storage.Location
import FileCleanup.Text.Blank

namespace FileCleanup

/-! Objects in the buckets of an S3 service. -/

/-- How a service refuses to delete an object. -/
inductive Refusal
  | generic
  | notFound
  | notSupported
  | alreadyExists
  | precondition
  | notModified
  | permissionDenied
  | unauthenticated
  deriving DecidableEq, Repr

namespace Refusal

def name : Refusal → String
  | generic => "Generic"
  | notFound => "NotFound"
  | notSupported => "NotSupported"
  | alreadyExists => "AlreadyExists"
  | precondition => "Precondition"
  | notModified => "NotModified"
  | permissionDenied => "PermissionDenied"
  | unauthenticated => "Unauthenticated"

def ofName? (name : String) : Option Refusal :=
  [generic, notFound, notSupported, alreadyExists, precondition, notModified, permissionDenied,
    unauthenticated].find? (·.name = name)

def message (refusal : Refusal) (location reason : String) : String :=
  match refusal with
  | generic => "Generic S3 error: " ++ reason
  | notFound => "Object at location " ++ location ++ " not found: " ++ reason
  | notSupported => "Operation not supported: " ++ reason
  | alreadyExists => "Object at location " ++ location ++ " already exists: " ++ reason
  | precondition => "Request precondition failure for path " ++ location ++ ": " ++ reason
  | notModified => "Object at location " ++ location ++ " not modified: " ++ reason
  | permissionDenied =>
    "The operation lacked the necessary privileges to complete for path " ++ location ++ ": " ++
      reason
  | unauthenticated =>
    "The operation lacked valid authentication credentials for path " ++ location ++ ": " ++ reason

end Refusal

structure Buckets where
  objects : List (String × Location)
  /-- The refusals in force, each with its reason. -/
  refusals : String → Location → Option (Refusal × String)

namespace Buckets

/-- A region is needed, of more than blanks. -/
def checkRegion (region : String) : Except StorageError Unit :=
  if Text.isAllBlank region then .error (.configuration "S3 region is empty") else .ok ()

def Holds (buckets : Buckets) (bucket : String) (location : Location) : Prop :=
  (bucket, location) ∈ buckets.objects

instance (buckets : Buckets) (bucket : String) (location : Location) :
    Decidable (buckets.Holds bucket location) :=
  inferInstanceAs (Decidable (_ ∈ _))

def put (buckets : Buckets) (bucket key : String) : Buckets :=
  if buckets.Holds bucket (.ofKey key) then buckets
  else { buckets with objects := buckets.objects ++ [(bucket, .ofKey key)] }

def remove (buckets : Buckets) (bucket : String) (location : Location) : Buckets :=
  { buckets with objects := buckets.objects.filter (· ≠ (bucket, location)) }

def checkAddress (bucket key : String) : Except StorageError Unit := do
  (Address.checkKey key).mapError Address.Fault.error
  (Address.checkBucket bucket).mapError Address.Fault.error

def logTarget : String := "backoffice_storage::s3"

def deleted (bucket key : String) : LogEvent :=
  ⟨.info, logTarget, "S3 delete successful", [("bucket", .text bucket), ("key", .text key)]⟩

def alreadyAbsent (bucket key : String) : LogEvent :=
  ⟨.debug, logTarget, "S3 object already absent", [("bucket", .text bucket), ("key", .text key)]⟩

def deleteFailed (error bucket key : String) : LogEvent :=
  ⟨.error, logTarget, "S3 delete failed",
    [("error", .text error), ("bucket", .text bucket), ("key", .text key)]⟩

/-- Deletes an object; the service does not tell whether there was one. -/
def delete (buckets : Buckets) (bucket key : String) :
    Except StorageError Unit × List LogEvent × Buckets :=
  match checkAddress bucket key with
  | .error problem => (.error problem, [], buckets)
  | .ok () =>
    let location := Location.ofKey key
    match buckets.refusals bucket location with
    | none => (.ok (), [deleted bucket key], buckets.remove bucket location)
    | some (.notFound, _) => (.ok (), [alreadyAbsent bucket key], buckets)
    | some (refusal, reason) =>
      let error := refusal.message location.text reason
      (.error (.deleteFailed error), [deleteFailed error bucket key], buckets)

/-- The objects as `bucket:location`, in the order of their characters. -/
def listing (buckets : Buckets) : List String :=
  (buckets.objects.map fun (bucket, location) => bucket ++ ":" ++ location.text).mergeSort
    fun left right => left ≤ right

end Buckets

end FileCleanup
