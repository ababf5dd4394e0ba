import FileCleanup.Database.Transaction

namespace FileCleanup

open Time

/-! The record store of a PostgreSQL database. -/

namespace LogEvent

def repositoryTarget : String := "backoffice_db::db::file"

def releasedStale (count : Nat) (age : Span) : LogEvent :=
  ⟨.info, repositoryTarget, "Released stale file claims",
    [("released", .integer count), ("age_secs", .decimal age.inSeconds.text)]⟩

def claimedExpired (count : Nat) (limit : Int) : LogEvent :=
  ⟨.debug, repositoryTarget, "Claimed expired files",
    [("claimed", .integer count), ("limit", .integer limit)]⟩

def alreadyDeleted (id : Uuid) : LogEvent :=
  ⟨.debug, repositoryTarget, "File already soft deleted or missing", [("file_id", .text id.text)]⟩

end LogEvent

namespace FileRecord

/-- Earlier expiry first; no expiry comes before all. -/
def expiresNoLater (left right : FileRecord) : Bool :=
  match left.expiresAt, right.expiresAt with
  | some leftExpiry, some rightExpiry => leftExpiry ≤ rightExpiry
  | none, _ => true
  | some _, none => false

end FileRecord

namespace Session

/-- Puts an error into the context of what was tried. -/
def inContext {Value : Type} (context : String) (result : Except Report Value) :
    Except Report Value :=
  result.mapError (Report.within context)

/-- A statement outside a transaction. -/
def bare {Value : Type} (session : Session) (statement : Statement)
    (read : Script → Except DatabaseError Value) : Except DatabaseError Value × Session :=
  if session.isOpen then
    let (script, session) := session.next
    let (answer, session) := session.execute script statement
    (answer.bind fun _ => read script, session)
  else (.error .poolClosed, session)

def get? (session : Session) (id : Uuid) : Except Report (Option FileRecord) × Session :=
  let (result, session) := session.bare (.get id) fun script =>
    match script.rows with
    | [] => .ok none
    | row :: _ => row.decode.map some
  (inContext "Failed to fetch file" (result.mapError DatabaseError.report), session)

/-- How many files wait for cleanup. -/
def countExpired (session : Session) : Except Report Int × Session :=
  let (result, session) := session.bare .countExpired fun script =>
    match script.count with
    | some count => .ok count
    | none => .error (.nullColumn 0 Row.unexpectedNull)
  (inContext "Failed to count expired files" (result.mapError DatabaseError.report), session)

def releaseStaleClaims (session : Session) (age : Span) : Except Report Nat × Session :=
  let (result, session) := session.withTransaction
    (.ofStatement (.releaseStaleClaims age) fun script => .ok script.affected)
  match result with
  | .ok count =>
    (.ok count, if count = 0 then session else session.tell (.releasedStale count age))
  | .error cause => (inContext "Failed to release stale file claims" (.error cause), session)

/-- Claims files and hands them out by expiry, since the server returns them in any order. -/
def claimExpired (session : Session) (limit : Int) : Except Report (List FileRecord) × Session :=
  let (result, session) := session.withTransaction
    (.ofStatement (.claimExpired limit) fun script => script.rows.mapM Row.decode)
  match result with
  | .ok files =>
    (.ok (files.mergeSort FileRecord.expiresNoLater),
      session.tell (.claimedExpired files.length limit))
  | .error cause => (inContext "Failed to claim expired files" (.error cause), session)

def recordFailedAttempt (session : Session) (id : Uuid) : Except Report Unit × Session :=
  let (result, session) := session.withTransaction
    (.ofStatement (.recordFailedAttempt id) fun script => .ok script.affected)
  match result with
  | .ok 0 => (.error (.ofMessage ("File " ++ id.text ++ " not found")), session)
  | .ok _ => (.ok (), session)
  | .error cause => (inContext "Failed to increment failed attempts" (.error cause), session)

def softDelete (session : Session) (id : Uuid) : Except Report Unit × Session :=
  let (result, session) := session.withTransaction
    (.ofStatement (.softDelete id) fun script => .ok script.affected)
  match result with
  | .ok 0 => (.ok (), session.tell (.alreadyDeleted id))
  | .ok _ => (.ok (), session)
  | .error cause => (inContext "Failed to soft delete file" (.error cause), session)

end Session

end FileCleanup
