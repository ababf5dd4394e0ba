import FileCleanup.Storage.Buckets

namespace FileCleanup

/-! An S3 client whose network leads nowhere. -/

structure S3Client where
  region : String
  endpoint : String
  deriving DecidableEq, Repr

namespace S3Client

/-- What a request fails with that never reaches the service. -/
def sendingFailed (client : S3Client) (bucket elapsed : String) : String :=
  Refusal.generic.message "" ("Error performing POST " ++ client.endpoint ++ "/" ++ bucket ++
    "?delete in " ++ elapsed ++ " - HTTP error: error sending request")

/-- Why a request cannot even be written; the program stops at once. -/
inductive Fault
  /-- The region holds a character that cannot stand in the head of a request. -/
  | head
  deriving DecidableEq, Repr

def Fault.message : Fault → String
  | head => "called \x60Result::unwrap()\x60 on an \x60Err\x60 value: InvalidHeaderValue"

/-- Whether a text can stand in the head of a request, which holds no control but tabs. -/
def fitsHead (text : String) : Bool :=
  text.toList.all fun c => c = '\t' || (' ' ≤ c && c ≠ '\x7f')

/-- What is wrong with the request for a delete, if there has to be one. -/
def fault? (client : S3Client) (bucket key : String) : Option Fault :=
  match Buckets.checkAddress bucket key with
  | .error _ => none
  | .ok () => if fitsHead client.region then none else some .head

/-- A delete: invalid addresses are rejected before anything is sent. -/
def delete (client : S3Client) (elapsed bucket key : String) :
    Except StorageError Unit × List LogEvent :=
  match Buckets.checkAddress bucket key with
  | .error problem => (.error problem, [])
  | .ok () =>
    let error := client.sendingFailed bucket elapsed
    (.error (.deleteFailed error), [Buckets.deleteFailed error bucket key])

end S3Client

end FileCleanup
